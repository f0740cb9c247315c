import RowQuery.Descriptor
import RowQuery.Saved.Filter
import RowQuery.Saved.Schema
/-!
# Saved descriptors

A descriptor is saved as one table. Every member may be missing, and members it
does not know are passed over. The window of rows stands among the others as
`begin` and `cap`; these two are looked at after all the rest.
-/

namespace RowQuery

namespace Pagination

/-- A row number that may be missing. -/
def bound (n : Option UInt64) : Tree :=
  match n with
  | some n => .int n.toNat
  | none => .null

def toMembers (p : Pagination) : List (String × Tree) :=
  [("begin", bound p.begin?), ("cap", bound p.cap?)]

def toTree (p : Pagination) : Tree := .object p.toMembers

/-- The window after one more member. -/
def member (p : Option (Option UInt64) × Option (Option UInt64)) (key : String) (t : Tree) :
    Tree.Read (Option (Option UInt64) × Option (Option UInt64)) :=
  match key with
  | "begin" => do
    let first ← Tree.once key p.1 (Tree.asOption Tree.asWord64) t
    .ok (first, p.2)
  | "cap" => do
    let cap ← Tree.once key p.2 (Tree.asOption Tree.asWord64) t
    .ok (p.1, cap)
  | _ => do
    t.skip
    .ok p

def ofMembers (members : List (String × Tree)) : Tree.Read Pagination := do
  let (first, cap) ← Tree.foldMembers member (none, none) members
  .ok ⟨first.join, cap.join⟩

def ofItems (f : Format) (items : List Tree) : Tree.Read Pagination := do
  match ← Tree.nextField (Tree.asOption Tree.asWord64) items with
  | (none, _) => .error (.tooShort 0 "struct Pagination with 2 elements")
  | (some first, items) =>
    match ← Tree.nextField (Tree.asOption Tree.asWord64) items with
    | (none, _) => .error (.tooShort 1 "struct Pagination with 2 elements")
    | (some cap, items) => do
      Tree.surplus f items
      .ok ⟨first, cap⟩

/-- Reads a window that stands by itself. -/
def ofTree (f : Format) (t : Tree) : Tree.Read Pagination :=
  t.asStructure "struct Pagination" ofMembers (ofItems f)

end Pagination

namespace Descriptor

def toTree (d : Descriptor) : Tree :=
  .object <|
    [("scope", .string d.scope),
     ("records", .array (d.records.map Saved.valuesToTree)),
     ("filters", .array (d.filters.map Clause.toTree)),
     ("sort", .array (d.sort.map SortKey.toTree))] ++
    d.pagination.toMembers ++
    [("projection", .array (d.projection.map Tree.string)),
     ("schema", (d.schema?.map Schema.toTree).getD .null),
     ("override", (d.override?.map Tree.string).getD .null),
     ("log_level", .int d.logLevel.toNat)]

/-- The members of a saved descriptor, as far as they are there. Those that are
none of its own are kept for the window. -/
structure Parts where
  scope : Option String := none
  records : Option (List Record) := none
  filters : Option Chain := none
  sort : Option (List SortKey) := none
  projection : Option (List String) := none
  schema : Option (Option Schema) := none
  override : Option (Option String) := none
  logLevel : Option UInt8 := none
  others : List (String × Tree) := []

namespace Parts

/-- The parts after one more member. -/
def member (f : Format) (p : Parts) (key : String) (t : Tree) : Tree.Read Parts :=
  match key with
  | "scope" => do
    let scope ← Tree.once key p.scope Tree.asText t
    .ok { p with scope := scope }
  | "records" => do
    let records ← Tree.once key p.records (Tree.asSequence Saved.valuesOfTree) t
    .ok { p with records := records }
  | "filters" => do
    let filters ← Tree.once key p.filters (Tree.asSequence (Clause.ofTree f)) t
    .ok { p with filters := filters }
  | "sort" => do
    let sort ← Tree.once key p.sort (Tree.asSequence (SortKey.ofTree f)) t
    .ok { p with sort := sort }
  | "projection" => do
    let projection ← Tree.once key p.projection (Tree.asSequence Tree.asText) t
    .ok { p with projection := projection }
  | "schema" => do
    let schema ← Tree.once key p.schema (Tree.asOption (Schema.ofTree f)) t
    .ok { p with schema := schema }
  | "override" => do
    let override ← Tree.once key p.override (Tree.asOption Tree.asText) t
    .ok { p with override := override }
  | "log_level" => do
    let logLevel ← Tree.once key p.logLevel Tree.asWord8 t
    .ok { p with logLevel := logLevel }
  | _ => do
    t.keep
    .ok { p with others := p.others ++ [(key, t)] }

/-- The descriptor of its parts. -/
def descriptor (p : Parts) : Tree.Read Descriptor := do
  let pagination ← Pagination.ofMembers p.others
  .ok {
    scope := p.scope.getD ""
    records := p.records.getD []
    filters := p.filters.getD []
    sort := p.sort.getD []
    pagination := pagination
    projection := p.projection.getD []
    schema? := p.schema.join
    override? := p.override.join
    logLevel := p.logLevel.getD 0 }

end Parts

/-- Reads a descriptor. -/
def ofTree (f : Format) (t : Tree) : Tree.Read Descriptor :=
  match t.members? with
  | some members => do
    let parts ← Tree.foldMembers (Parts.member f) {} members
    parts.descriptor
  | none => .error (t.mismatch "struct QueryDescriptor")

end Descriptor

end RowQuery
