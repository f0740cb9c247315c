import RowQuery.Statement.Fragment
import RowQuery.Text.NameChar
/-!
# Templates

A template is SQL with placeholders: `<%=`, a name between optional blanks, and
`%>`. It is read as a whole before anything is filled in, so a broken template
yields no text at all, and what a fragment holds is never read again.

Positions are counted in bytes of UTF-8 from the start of the template.
-/

namespace RowQuery

namespace Template

/-- What is wrong at a `<%`. -/
inductive Fault where
  | notExpression
  | neverClosed
  | reopened
  | notOneName
  | unknownName (name : String)
deriving DecidableEq, Repr

def Fault.reason : Fault → String
  | notExpression => "only <%= Name %> placeholders are supported"
  | neverClosed => "placeholder is never closed"
  | reopened => "placeholder opened again before it was closed"
  | notOneName => "placeholder must hold a single name"
  | unknownName name => "unknown placeholder '" ++ name ++ "'"

/-- A fault and the position of its `<%`. -/
structure Malformed where
  position : Nat
  fault : Fault
deriving DecidableEq, Repr

inductive Segment where
  | text (s : String)
  /-- A placeholder's name and the position of its `<%`. -/
  | placeholder (name : String) (position : Nat)
deriving DecidableEq, Repr

/-- The bytes that characters take in UTF-8. -/
def width : List Char → Nat
  | [] => 0
  | c :: cs => c.utf8Size + width cs

/-- A blank inside a placeholder. -/
def isBlank (c : Char) : Bool := c == ' ' || c == '\t' || c == '\r' || c == '\n'

/-- The text before the first `<%`, and what is left from there on. -/
def cut : List Char → List Char × List Char
  | [] => ([], [])
  | '<' :: '%' :: rest => ([], '<' :: '%' :: rest)
  | c :: rest => (c :: (cut rest).1, (cut rest).2)

theorem cut_append (cs : List Char) : (cut cs).1 ++ (cut cs).2 = cs := by
  fun_induction cut cs <;> simp_all

/-- The name of a placeholder at the start, and what follows it. -/
def placeholder? : List Char → Option (List Char × List Char)
  | '<' :: '%' :: '=' :: rest =>
    let inner := rest.dropWhile isBlank
    let name := inner.takeWhile Text.isNameChar
    match name, (inner.dropWhile Text.isNameChar).dropWhile isBlank with
    | _ :: _, '%' :: '>' :: after => some (name, after)
    | _, _ => none
  | _ => none

theorem length_dropWhile_le (p : Char → Bool) (cs : List Char) :
    (cs.dropWhile p).length ≤ cs.length :=
  (List.dropWhile_sublist p).length_le

theorem placeholder?_length {cs name after : List Char} (h : placeholder? cs = some (name, after)) :
    after.length < cs.length := by
  unfold placeholder? at h
  split at h
  · rename_i rest
    simp only at h
    split at h
    · rename_i h₂
      have h₃ := congrArg List.length h₂
      have h₄ := length_dropWhile_le isBlank ((rest.dropWhile isBlank).dropWhile Text.isNameChar)
      have h₅ := length_dropWhile_le Text.isNameChar (rest.dropWhile isBlank)
      have h₆ := length_dropWhile_le isBlank rest
      cases h
      simp only [List.length_cons] at h₃ ⊢
      omega
    · cases h
  · cases h

/-- The index of the first `a` directly followed by `b`. -/
def indexOf? (a b : Char) : List Char → Option Nat
  | x :: y :: rest => if x = a ∧ y = b then some 0 else (indexOf? a b (y :: rest)).map (· + 1)
  | _ => none

/-- What is wrong with a `<%` that starts no placeholder. -/
def faultAt : List Char → Fault
  | '<' :: '%' :: '=' :: body =>
    match indexOf? '%' '>' body, indexOf? '<' '%' body with
    | none, _ => .neverClosed
    | some closes, some opens => if opens < closes then .reopened else .notOneName
    | some _, none => .notOneName
  | _ => .notExpression

/-- A text segment, unless the text is empty. -/
def textSegment (cs : List Char) : List Segment :=
  if cs.isEmpty then [] else [.text (String.ofList cs)]

/-- The segments of a template from a position on. -/
def segmentsFrom (position : Nat) (cs : List Char) : Except Malformed (List Segment) :=
  let text := (cut cs).1
  let start := position + width text
  if (cut cs).2.isEmpty then .ok (textSegment text)
  else
    match _found : placeholder? (cut cs).2 with
    | none => .error ⟨start, faultAt (cut cs).2⟩
    | some (name, after) =>
      match segmentsFrom (start + (width (cut cs).2 - width after)) after with
      | .error e => .error e
      | .ok more => .ok (textSegment text ++ .placeholder (String.ofList name) start :: more)
termination_by cs.length
decreasing_by
  have h₁ := placeholder?_length _found
  have h₂ := congrArg List.length (cut_append cs)
  simp only [List.length_append] at h₂
  omega

/-- The segments of a template. -/
def parse (template : String) : Except Malformed (List Segment) := segmentsFrom 0 template.toList

/-- The segments with fragments in the places of the placeholders. -/
def fill (f : Fragments String) : List Segment → Except Malformed String
  | [] => .ok ""
  | .text s :: rest => (fill f rest).map (s ++ ·)
  | .placeholder name position :: rest =>
    match FragmentName.ofPlaceholder? name with
    | none => .error ⟨position, .unknownName name⟩
    | some n => (fill f rest).map (f.get n ++ ·)

/-- The text of a template. Blanks around a placeholder stay, also when its
fragment is empty. -/
def render (template : String) (f : Fragments String) : Except Malformed String :=
  match parse template with
  | .error e => .error e
  | .ok segments => fill f segments

end Template

end RowQuery
