import RowQuery.Number.Binary64
/-!
# Document trees

What a JSON or a TOML text says, before it is read as anything in particular:
scalars, sequences, and tables whose members keep their order and may repeat a
key.

A text that breaks off is a tree too, as far as it could be read. The place
where it broke holds `unreadable`, so a reader that goes through the tree in
order meets its faults in the order of the text.
-/

namespace RowQuery

inductive Tree where
  | null
  | bool (b : Bool)
  | int (n : Int)
  | float (x : Binary64)
  | string (s : String)
  /-- A date or a time, in its standard form. Only TOML has them. -/
  | date (text : String)
  | array (items : List Tree)
  | object (members : List (String × Tree))
  /-- Text that stands for no tree. It can be skipped when only its value is at
  fault, such as a number beyond the range; else the text ends here. -/
  | unreadable (skippable : Bool)
  /-- In place of a member whose name is no text: what was found for the name, and
  whether the text goes on after the member. -/
  | unnamed (found : Tree) (skippable : Bool)
deriving Repr, Inhabited

namespace Tree

mutual
/-- Every part of the tree was read. -/
def isSound : Tree → Bool
  | array items => areSound items
  | object members => membersAreSound members
  | unreadable _ | unnamed _ _ => false
  | null | bool _ | int _ | float _ | string _ | date _ => true

def areSound : List Tree → Bool
  | [] => true
  | t :: rest => t.isSound && areSound rest

def membersAreSound : List (String × Tree) → Bool
  | [] => true
  | (_, t) :: rest => t.isSound && membersAreSound rest
end

mutual
/-- The text goes on after the tree. -/
def isSkippable : Tree → Bool
  | array items => areSkippable items
  | object members => membersAreSkippable members
  | unreadable s | unnamed _ s => s
  | null | bool _ | int _ | float _ | string _ | date _ => true

def areSkippable : List Tree → Bool
  | [] => true
  | t :: rest => t.isSkippable && areSkippable rest

def membersAreSkippable : List (String × Tree) → Bool
  | [] => true
  | (_, t) :: rest => t.isSkippable && membersAreSkippable rest
end

/-- The key under which a date shows its text when it is read as a table. -/
def dateKey : String := "$__toml_private_datetime"

/-- The members of a table. A date reads as a table of one member. -/
def members? : Tree → Option (List (String × Tree))
  | object members => some members
  | date text => some [(dateKey, string text)]
  | _ => none

/-! ## Trees compared -/

mutual
def same : Tree → Tree → Bool
  | null, null => true
  | bool b, bool b' => b = b'
  | int n, int n' => n = n'
  | float x, float x' => x = x'
  | string s, string s' => s = s'
  | date s, date s' => s = s'
  | array l, array l' => allSame l l'
  | object l, object l' => membersSame l l'
  | unreadable b, unreadable b' => b = b'
  | unnamed t b, unnamed t' b' => same t t' && b = b'
  | _, _ => false

def allSame : List Tree → List Tree → Bool
  | [], [] => true
  | t :: rest, t' :: rest' => same t t' && allSame rest rest'
  | _, _ => false

def membersSame : List (String × Tree) → List (String × Tree) → Bool
  | [], [] => true
  | (k, t) :: rest, (k', t') :: rest' => (k = k' && same t t') && membersSame rest rest'
  | _, _ => false
end

mutual
theorem same_iff (t u : Tree) : same t u ↔ t = u := by
  match t with
  | .array l => cases u <;> simp [same, allSame_iff l]
  | .object l => cases u <;> simp [same, membersSame_iff l]
  | .unnamed t b => cases u <;> simp [same, same_iff t]
  | .null | .bool _ | .int _ | .float _ | .string _ | .date _ | .unreadable _ => cases u <;> simp [same]

theorem allSame_iff (l l' : List Tree) : allSame l l' ↔ l = l' := by
  match l with
  | [] => cases l' <;> simp [allSame]
  | t :: rest => cases l' <;> simp [allSame, same_iff t, allSame_iff rest]

theorem membersSame_iff (l l' : List (String × Tree)) : membersSame l l' ↔ l = l' := by
  match l with
  | [] => cases l' <;> simp [membersSame]
  | (k, t) :: rest => cases l' <;> simp [membersSame, same_iff t, membersSame_iff rest, Prod.ext_iff]
end

instance : DecidableEq Tree := fun t u => decidable_of_iff (same t u) (same_iff t u)

end Tree

/-- A tree and whether nothing but blanks follows it in its text. -/
structure Reading where
  tree : Tree
  clean : Bool
deriving DecidableEq

end RowQuery
