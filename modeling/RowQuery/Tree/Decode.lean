import RowQuery.Tree.Fault
/-!
# Reading trees

Readers for the parts of documents: texts, numbers, sequences, variants, and
structures that are written as tables or as sequences of their fields. Every
reader goes through its tree in order, so of two faults the first in the text
is reported.
-/

namespace RowQuery.Tree

/-- The result of reading a tree. -/
abbrev Read (α : Type) := Except Fault α

/-- The fault of a tree that is not what was expected. -/
def mismatch (t : Tree) (expected : String) : Fault :=
  match t with
  | unreadable _ | unnamed _ _ => .unreadable
  | t => .wrongType t expected

def asText : Tree → Read String
  | string s => .ok s
  | t => .error (t.mismatch "a string")

/-- A natural number below `bound`. -/
def asNatural (bound : Nat) (expected : String) : Tree → Read Nat
  | int n =>
    if 0 ≤ n ∧ n < bound then .ok n.toNat else .error (.outOfRange n expected)
  | t => .error (t.mismatch expected)

def asWord64 (t : Tree) : Read UInt64 := (t.asNatural UInt64.size "u64").map UInt64.ofNat

def asWord8 (t : Tree) : Read UInt8 := (t.asNatural UInt8.size "u8").map UInt8.ofNat

/-- Nothing, or what the reader makes of the tree. -/
def asOption {α : Type} (f : Tree → Read α) : Tree → Read (Option α)
  | null => .ok none
  | t => (f t).map some

/-- Reads each item in turn. -/
def eachItem {α : Type} (f : Tree → Read α) : List Tree → Read (List α)
  | [] => .ok []
  | t :: rest => do
    let x ← f t
    let xs ← eachItem f rest
    .ok (x :: xs)

def asSequence {α : Type} (f : Tree → Read α) : Tree → Read (List α)
  | array items => eachItem f items
  | t => .error (t.mismatch "a sequence")

/-- Reads each member in turn. -/
def eachMember {α : Type} (f : Tree → Read α) : List (String × Tree) → Read (List (String × α))
  | [] => .ok []
  | (_, unnamed _ _) :: _ => .error .unreadable
  | (k, t) :: rest => do
    let x ← f t
    let xs ← eachMember f rest
    .ok ((k, x) :: xs)

def asMembers {α : Type} (f : Tree → Read α) (t : Tree) : Read (List (String × α)) :=
  match t.members? with
  | some members => eachMember f members
  | none => .error (t.mismatch "a map")

/-- Passes over a tree whose value is not asked for. -/
def skip (t : Tree) : Read Unit := if t.isSkippable then .ok () else .error .unreadable

/-- Passes over a tree that is kept for later. -/
def keep (t : Tree) : Read Unit := if t.isSound then .ok () else .error .unreadable

/-! ## Variants -/

/-- The names of a kind of variant, and what an unknown name stands for. -/
structure Variants (α : Type) where
  names : List (String × α)
  other : Option α := none

/-- The variant of that name. -/
def Variants.ofName {α : Type} (v : Variants α) (name : String) : Read α :=
  match v.names.lookup name with
  | some x => .ok x
  | none =>
    match v.other with
    | some x => .ok x
    | none => .error (.unknownVariant name (v.names.map (·.1)))

/-- A variant in JSON is its name, or a table with its name over `null`. -/
def asJsonVariant {α : Type} (v : Variants α) : Tree → Read α
  | string s => v.ofName s
  | object ((_, unnamed found _) :: _) => .error (found.mismatch "variant identifier")
  | object ((name, content) :: rest) => do
    let x ← v.ofName name
    match content with
    | null => if rest.isEmpty then .ok x else .error .unreadable
    | t => .error (t.mismatch "unit")
  | _ => .error .unreadable

/-- A variant in TOML is its name, or a table with its name over something empty. -/
def asTomlVariant {α : Type} (v : Variants α) : Tree → Read α
  | string s => v.ofName s
  | object [] => .error (.variantTableSize true)
  | object [(name, content)] => do
    let x ← v.ofName name
    match content with
    | array [] | object [] => .ok x
    | t => .error (.variantContent t)
  | object _ => .error (.variantTableSize false)
  | _ => .error .notVariant

def asVariant {α : Type} (f : Format) (v : Variants α) (t : Tree) : Read α :=
  match f with
  | .json => t.asJsonVariant v
  | .toml => t.asTomlVariant v

/-! ## Structures -/

/-- A field that is read for the first time. -/
def once {α : Type} (name : String) (old : Option α) (f : Tree → Read α) (t : Tree) :
    Read (Option α) :=
  if old.isSome then .error (.duplicateField name) else (f t).map some

/-- Reads the members of a table one after the other into a value. -/
def foldMembers {α : Type} (f : α → String → Tree → Read α) (start : α) :
    List (String × Tree) → Read α
  | [] => .ok start
  | (_, unnamed _ _) :: _ => .error .unreadable
  | (k, t) :: rest => do
    let next ← f start k t
    foldMembers f next rest

/-- The items of a sequence beyond the fields of a structure: a fault in JSON,
nothing in TOML. -/
def surplus (f : Format) (items : List Tree) : Read Unit :=
  match f with
  | .json => if items.isEmpty then .ok () else .error .unreadable
  | .toml => .ok ()

/-- The field at the front of a sequence, if there is one left. -/
def nextField {α : Type} (f : Tree → Read α) : List Tree → Read (Option α × List Tree)
  | [] => .ok (none, [])
  | t :: rest => do
    let x ← f t
    .ok (some x, rest)

/-- A structure written as a table or as a sequence of its fields. -/
def asStructure {α : Type} (expected : String) (ofMembers : List (String × Tree) → Read α)
    (ofItems : List Tree → Read α) (t : Tree) : Read α :=
  match t.members? with
  | some members => ofMembers members
  | none =>
    match t with
    | array items => ofItems items
    | t => .error (t.mismatch expected)

end RowQuery.Tree
