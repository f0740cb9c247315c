import RowQuery.Schema
import RowQuery.Tree.Decode
/-!
# Saved schemas

A schema is saved as the list of its columns with their roles.
-/

namespace RowQuery

namespace ColumnRole

/-- The names of the roles; any other name is `standard`. -/
def variants : Tree.Variants ColumnRole where
  names := all.map fun r => (r.name, r)
  other := some standard

def toTree (r : ColumnRole) : Tree := .string r.name

def ofTree (f : Format) (t : Tree) : Tree.Read ColumnRole := t.asVariant f variants

end ColumnRole

namespace ColumnDefinition

def toTree (d : ColumnDefinition) : Tree :=
  .object [("Column", .string d.column), ("Type", d.role.toTree)]

/-- The fields of a definition after one more member. -/
def member (f : Format) (p : Option String × Option ColumnRole) (key : String) (t : Tree) :
    Tree.Read (Option String × Option ColumnRole) :=
  match key with
  | "Column" => do
    let column ← Tree.once key p.1 Tree.asText t
    .ok (column, p.2)
  | "Type" => do
    let role ← Tree.once key p.2 (ColumnRole.ofTree f) t
    .ok (p.1, role)
  | _ => do
    t.skip
    .ok p

def ofMembers (f : Format) (members : List (String × Tree)) : Tree.Read ColumnDefinition := do
  match ← Tree.foldMembers (member f) (none, none) members with
  | (some column, role) => .ok ⟨column, role.getD .standard⟩
  | (none, _) => .error (.missingField "Column")

def ofItems (f : Format) (items : List Tree) : Tree.Read ColumnDefinition := do
  match ← Tree.nextField Tree.asText items with
  | (none, _) => .error (.tooShort 0 "struct ColumnDefinition with 2 elements")
  | (some column, items) =>
    let (role, items) ← Tree.nextField (ColumnRole.ofTree f) items
    Tree.surplus f items
    .ok ⟨column, role.getD .standard⟩

/-- Reads a definition. A missing role is `standard`. -/
def ofTree (f : Format) (t : Tree) : Tree.Read ColumnDefinition :=
  t.asStructure "struct ColumnDefinition" (ofMembers f) (ofItems f)

end ColumnDefinition

namespace Schema

def toTree (s : Schema) : Tree := .array (s.definitions.map ColumnDefinition.toTree)

def ofTree (f : Format) (t : Tree) : Tree.Read Schema :=
  (t.asSequence (ColumnDefinition.ofTree f)).map ofDefinitions

end Schema

end RowQuery
