import Mathlib.Data.List.Permutation
import RowQuery.Proofs.SavedFilter
import RowQuery.Saved.Schema
/-!
# Filters, sort keys and columns as a file writes them

A file may leave members of a table out, put them in any order, and spell
operators, connectors, directions and roles its own way. What is `Given` about a
clause, a sort key or a column is the same data a call is made with, and the
table of it is read as what the call makes.
-/

namespace RowQuery

/-- A value whose floating-point numbers are all finite. -/
abbrev FiniteValue := { v : Value // v.isFinite }

theorem FiniteValue.ofTree_toTree (v : FiniteValue) : Value.ofTree v.val.toTree = .ok v.val := by
  rw [Value.ofTree_toTree, (Value.saved_eq_self_iff _).2 v.property]

/-- A table of these members, in some order. -/
def Tree.Tabulates (t : Tree) (members : List (String × Tree)) : Prop :=
  ∃ ms : List (String × Tree), ms.Perm members ∧ t = .object ms

/-- Data with a table of its members. -/
structure Tabled {α : Type} (members : α → List (String × Tree)) where
  data : α
  tree : Tree
  tabulates : tree.Tabulates (members data)

/-- A sequence of tables is read table by table. -/
theorem Tabled.asSequence_map {α β : Type} {members : α → List (String × Tree)} {read : Tree → Tree.Read β}
    {make : α → β} (h : ∀ x t, t.Tabulates (members x) → read t = .ok (make x)) (l : List (Tabled members)) :
    Tree.asSequence read (.array (l.map Tabled.tree)) = .ok (l.map fun x => make x.data) :=
  Tree.asSequence_map fun x _ => h x.data x.tree x.tabulates

/-! ## Clauses -/

namespace Clause

/-- What is given about a clause. The operator and the connector are texts; a stem
may also be given as `null`. -/
structure Given where
  column? : Option String
  operator? : Option String
  value? : Option FiniteValue
  connector? : Option String
  parameter? : Option (Option String)

namespace Given

def members (x : Given) : List (String × Tree) :=
  (x.column?.map fun s => ("Column", .string s)).toList ++
    (x.operator?.map fun s => ("Operator", .string s)).toList ++
    (x.value?.map fun v => ("Value", v.val.toTree)).toList ++
    (x.connector?.map fun s => ("Connector", .string s)).toList ++
    (x.parameter?.map fun p => ("Parameter", (p.map Tree.string).getD .null)).toList

/-- The clause made of what is given: without an operator `=`, without a connector
`AND`, and with the stem changed when one is given that is not empty. -/
def clause (x : Given) : Clause :=
  let c := Clause.new (x.column?.getD "") ((x.value?.map Subtype.val).getD .null)
    (.parse (x.operator?.getD "=")) (.parse (x.connector?.getD "AND"))
  match x.parameter? with
  | some (some stem) => if stem = "" then c else c.withParameter stem
  | _ => c

end Given

/-- A member of a clause's table. -/
inductive Entry where
  | column (s : String)
  | operator (s : String)
  | value (v : FiniteValue)
  | connector (s : String)
  | parameter (p : Option String)

namespace Entry

def member : Entry → String × Tree
  | column s => ("Column", .string s)
  | operator s => ("Operator", .string s)
  | value v => ("Value", v.val.toTree)
  | connector s => ("Connector", .string s)
  | parameter p => ("Parameter", (p.map Tree.string).getD .null)

/-- The parts with an entry in its place. -/
def set (p : Parts) : Entry → Parts
  | column s => { p with column := some s }
  | operator s => { p with operator := some (.parse s) }
  | value v => { p with value := some v.val }
  | connector s => { p with connector := some (.parse s) }
  | parameter s => { p with parameter := some s }

/-- The place of an entry is empty. -/
def Free (p : Parts) : Entry → Prop
  | column _ => p.column = none
  | operator _ => p.operator = none
  | value _ => p.value = none
  | connector _ => p.connector = none
  | parameter _ => p.parameter = none

theorem member_ne_unnamed (e : Entry) (found : Tree) (s : Bool) : e.member.2 ≠ .unnamed found s := by
  cases e with
  | value v => exact Tree.ne_unnamed_of_isSound v.val.isSound_toTree found s
  | parameter p => cases p <;> simp [member]
  | _ => simp [member]

theorem read_member (p : Parts) (e : Entry) (h : Free p e) : p.member e.member.1 e.member.2 = .ok (set p e) := by
  have hparameter (s : Option String) : Tree.asOption Tree.asText ((s.map Tree.string).getD .null) = .ok s :=
    Tree.asOption_getD (by simp) Tree.asText_string s
  cases e <;> simp only [Free] at h <;>
    simp [Parts.member, member, set, h, Operator.ofTree, Connector.ofTree, FiniteValue.ofTree_toTree, hparameter]

theorem free_set (p : Parts) (e e' : Entry) (hne : e.member.1 ≠ e'.member.1) (h : Free p e') :
    Free (set p e) e' := by
  cases e <;> cases e' <;> first | exact h | exact absurd rfl hne

theorem set_comm (p : Parts) (e e' : Entry) (hne : e.member.1 ≠ e'.member.1) :
    set (set p e) e' = set (set p e') e := by
  cases e <;> cases e' <;> first | rfl | exact absurd rfl hne

end Entry

namespace Given

def entries (x : Given) : List Entry :=
  (x.column?.map .column).toList ++ (x.operator?.map .operator).toList ++ (x.value?.map .value).toList ++
    (x.connector?.map .connector).toList ++ (x.parameter?.map .parameter).toList

theorem members_eq (x : Given) : x.members = x.entries.map Entry.member := by
  obtain ⟨_ | _, _ | _, _ | _, _ | _, _ | _⟩ := x <;> rfl

theorem nodup_entries (x : Given) : (x.entries.map fun e => e.member.1).Nodup := by
  obtain ⟨_ | _, _ | _, _ | _, _ | _, _ | _⟩ := x <;> simp [entries, Entry.member]

theorem foldl_entries (x : Given) :
    x.entries.foldl Entry.set {} =
      ⟨x.column?, x.operator?.map .parse, x.value?.map Subtype.val, x.connector?.map .parse, x.parameter?⟩ := by
  obtain ⟨_ | _, _ | _, _ | _, _ | _, _ | _⟩ := x <;> rfl

/-- The parts of what is given make the same clause as the calls. -/
theorem clause_parts (x : Given) :
    Parts.clause ⟨x.column?, x.operator?.map .parse, x.value?.map Subtype.val, x.connector?.map .parse, x.parameter?⟩ =
      x.clause := by
  have ho : (x.operator?.map Operator.parse).getD .eq = .parse (x.operator?.getD "=") := by
    cases x.operator? with
    | none => exact (Operator.parse_text_of_ne_custom (o := .eq) (by simp)).symm
    | some s => rfl
  have hk : (x.connector?.map Connector.parse).getD .and = .parse (x.connector?.getD "AND") := by
    cases x.connector? with
    | none => exact (Connector.parse_text .and).symm
    | some s => rfl
  obtain ⟨column?, operator?, value?, connector?, _ | _ | stem⟩ := x <;> simp only [Parts.clause, clause, ho, hk]

end Given

/-- A clause's table is read as the clause made of what is given. -/
theorem ofTree_given (f : Format) (x : Given) (t : Tree) (h : t.Tabulates x.members) : ofTree f t = .ok x.clause := by
  obtain ⟨ms, hm, rfl⟩ := h
  have hread : Tree.foldMembers Parts.member {} ms = .ok (x.entries.foldl Entry.set {}) := by
    refine Tree.foldMembers_perm Entry.member_ne_unnamed Entry.read_member Entry.free_set Entry.set_comm
      x.nodup_entries ?_ (x.members_eq ▸ hm)
    intro e _
    cases e <;> rfl
  have hstructure : ofTree f (.object ms) = (Tree.foldMembers Parts.member {} ms >>= fun p => .ok p.clause) := rfl
  rw [hstructure, hread, Tree.ok_bind, x.foldl_entries, x.clause_parts]

end Clause

/-! ## Sort keys -/

/-- A direction with one of its spellings. -/
abbrev Direction.Spelled := { e : String × Direction // e ∈ Direction.variants.names }

theorem Direction.ofTree_spelled (f : Format) (s : Spelled) : ofTree f (.string s.val.1) = .ok s.val.2 := by
  have hall : ∀ e ∈ variants.names, variants.names.lookup e.1 = some e.2 := by decide
  rw [ofTree, Tree.asVariant_string, Tree.Variants.ofName, hall s.val s.property]

namespace SortKey

/-- What is given about a sort key. -/
structure Given where
  column : String
  direction? : Option Direction.Spelled

def Given.members (x : Given) : List (String × Tree) :=
  ("Column", .string x.column) :: (x.direction?.map fun s => ("Direction", .string s.val.1)).toList

/-- The sort key made of what is given: ascending without a direction. -/
def Given.key (x : Given) : SortKey := ⟨x.column, (x.direction?.map (·.val.2)).getD .ascending⟩

theorem ofTree_given (f : Format) (x : Given) (t : Tree) (h : t.Tabulates x.members) : ofTree f t = .ok x.key := by
  obtain ⟨ms, hm, rfl⟩ := h
  obtain ⟨column, direction?⟩ := x
  cases direction? with
  | none =>
    obtain rfl := List.perm_singleton.1 hm
    simp [ofTree, Tree.asStructure, Tree.members?, ofMembers, Tree.foldMembers, member, Given.key]
  | some s =>
    have hd := Direction.ofTree_spelled f s
    rcases List.perm_pair.1 hm with rfl | rfl <;>
      simp [ofTree, Tree.asStructure, Tree.members?, ofMembers, Tree.foldMembers, member, Given.key, hd]

end SortKey

/-! ## Columns -/

/-- Names in a list of variants are looked up as the variants are found by name. -/
theorem lookup_map_eq_find? {α : Type} (name : α → String) (s : String) (l : List α) :
    (l.map fun x => (name x, x)).lookup s = l.find? fun x => name x = s := by
  induction l with
  | nil => rfl
  | cons x l ih =>
    by_cases h : name x = s
    · simp [h]
    · have h' : ¬ s = name x := fun e => h e.symm
      have hb : (s == name x) = false := by simpa using h'
      simp [List.lookup_cons, h, hb, ih]

theorem ColumnRole.ofTree_string (f : Format) (s : String) : ofTree f (.string s) = .ok (ofName s) := by
  rw [ofTree, Tree.asVariant_string, Tree.Variants.ofName, ofName]
  simp only [variants, lookup_map_eq_find?]
  cases all.find? fun r => r.name = s <;> rfl

namespace ColumnDefinition

/-- What is given about a column. The role is a text. -/
structure Given where
  column : String
  role? : Option String

def Given.members (x : Given) : List (String × Tree) :=
  ("Column", .string x.column) :: (x.role?.map fun s => ("Type", .string s)).toList

/-- The definition made of what is given: an unknown role and no role are `standard`. -/
def Given.definition (x : Given) : ColumnDefinition := ⟨x.column, (x.role?.map .ofName).getD .standard⟩

theorem ofTree_given (f : Format) (x : Given) (t : Tree) (h : t.Tabulates x.members) :
    ofTree f t = .ok x.definition := by
  obtain ⟨ms, hm, rfl⟩ := h
  obtain ⟨column, role?⟩ := x
  cases role? with
  | none =>
    obtain rfl := List.perm_singleton.1 hm
    simp [ofTree, Tree.asStructure, Tree.members?, ofMembers, Tree.foldMembers, member, Given.definition]
  | some s =>
    have hr := ColumnRole.ofTree_string f s
    rcases List.perm_pair.1 hm with rfl | rfl <;>
      simp [ofTree, Tree.asStructure, Tree.members?, ofMembers, Tree.foldMembers, member, Given.definition, hr]

end ColumnDefinition

end RowQuery
