import RowQuery.Filter
import RowQuery.Saved.Value
/-!
# Saved filters and sort keys

A clause is saved in one flat shape, whether it is a condition or a token. Every
field may be missing: no operator means equality and no connector means `and`.
-/

namespace RowQuery

namespace Operator

def toTree (o : Operator) : Tree := .string o.text

def ofTree (t : Tree) : Tree.Read Operator := t.asText.map parse

end Operator

namespace Connector

def toTree (c : Connector) : Tree := .string c.text

def ofTree (t : Tree) : Tree.Read Connector := t.asText.map parse

end Connector

namespace Direction

def name : Direction → String
  | ascending => "Ascending"
  | descending => "Descending"

/-- The spellings of a direction. -/
def variants : Tree.Variants Direction where
  names :=
    [("ASC", ascending), ("Asc", ascending), ("Ascending", ascending), ("asc", ascending),
     ("DESC", descending), ("Desc", descending), ("Descending", descending), ("desc", descending)]

def toTree (d : Direction) : Tree := .string d.name

def ofTree (f : Format) (t : Tree) : Tree.Read Direction := t.asVariant f variants

end Direction

namespace Clause

/-- The fields of a saved clause, as far as they are there. -/
structure Parts where
  column : Option String := none
  operator : Option Operator := none
  value : Option Value := none
  connector : Option Connector := none
  parameter : Option (Option String) := none

namespace Parts

/-- The clause of its parts. A stem that is missing or empty is the column's name. -/
def clause (p : Parts) : Clause :=
  let c := Clause.new (p.column.getD "") (p.value.getD .null) (p.operator.getD .eq)
    (p.connector.getD .and)
  match p.parameter with
  | some (some stem) => if stem = "" then c else c.withParameter stem
  | _ => c

/-- The parts after one more member. -/
def member (p : Parts) (key : String) (t : Tree) : Tree.Read Parts :=
  match key with
  | "Column" => do
    let column ← Tree.once key p.column Tree.asText t
    .ok { p with column := column }
  | "Operator" => do
    let operator ← Tree.once key p.operator Operator.ofTree t
    .ok { p with operator := operator }
  | "Value" => do
    let value ← Tree.once key p.value Value.ofTree t
    .ok { p with value := value }
  | "Connector" => do
    let connector ← Tree.once key p.connector Connector.ofTree t
    .ok { p with connector := connector }
  | "Parameter" => do
    let parameter ← Tree.once key p.parameter (Tree.asOption Tree.asText) t
    .ok { p with parameter := parameter }
  | _ => do
    t.skip
    .ok p

/-- The parts in the order of a sequence. -/
def ofItems (f : Format) (items : List Tree) : Tree.Read Parts := do
  let (column, items) ← Tree.nextField Tree.asText items
  let (operator, items) ← Tree.nextField Operator.ofTree items
  let (value, items) ← Tree.nextField Value.ofTree items
  let (connector, items) ← Tree.nextField Connector.ofTree items
  let (parameter, items) ← Tree.nextField (Tree.asOption Tree.asText) items
  Tree.surplus f items
  .ok ⟨column, operator, value, connector, parameter⟩

end Parts

def toTree : Clause → Tree
  | condition c =>
    .object [("Column", .string c.column), ("Operator", c.operator.toTree), ("Value", c.value.toTree),
      ("Connector", c.connector.toTree), ("Parameter", .string c.parameter)]
  | group g k =>
    .object [("Column", .string ""), ("Operator", .string g.token), ("Value", .null),
      ("Connector", k.toTree), ("Parameter", .null)]

def ofTree (f : Format) (t : Tree) : Tree.Read Clause := do
  let parts ← t.asStructure "struct RawFilter" (Tree.foldMembers Parts.member {}) (Parts.ofItems f)
  .ok parts.clause

end Clause

namespace SortKey

def toTree (s : SortKey) : Tree :=
  .object [("Column", .string s.column), ("Direction", s.direction.toTree)]

/-- The fields of a sort key after one more member. -/
def member (f : Format) (p : Option String × Option Direction) (key : String) (t : Tree) :
    Tree.Read (Option String × Option Direction) :=
  match key with
  | "Column" => do
    let column ← Tree.once key p.1 Tree.asText t
    .ok (column, p.2)
  | "Direction" => do
    let direction ← Tree.once key p.2 (Direction.ofTree f) t
    .ok (p.1, direction)
  | _ => do
    t.skip
    .ok p

def ofMembers (f : Format) (members : List (String × Tree)) : Tree.Read SortKey := do
  match ← Tree.foldMembers (member f) (none, none) members with
  | (some column, direction) => .ok ⟨column, direction.getD .ascending⟩
  | (none, _) => .error (.missingField "Column")

def ofItems (f : Format) (items : List Tree) : Tree.Read SortKey := do
  match ← Tree.nextField Tree.asText items with
  | (none, _) => .error (.tooShort 0 "struct SortSpec with 2 elements")
  | (some column, items) =>
    let (direction, items) ← Tree.nextField (Direction.ofTree f) items
    Tree.surplus f items
    .ok ⟨column, direction.getD .ascending⟩

/-- Reads a sort key. A missing direction is ascending. -/
def ofTree (f : Format) (t : Tree) : Tree.Read SortKey :=
  t.asStructure "struct SortSpec" (ofMembers f) (ofItems f)

end SortKey

end RowQuery
