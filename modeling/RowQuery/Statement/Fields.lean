import RowQuery.Descriptor
import RowQuery.Statement.Piece
/-!
# The fields of a write

A create and an update write the columns of one record. The role of a column
decides how: its value is bound, a literal of the dialect takes its place, or
the column is left out. A column left out does not count in the numbering of
the bound names; a literal does.
-/

namespace RowQuery

/-- The two writes that carry a record. -/
inductive WriteKind where
  | create
  | update
deriving DecidableEq, Repr

def WriteKind.name : WriteKind → String
  | .create => "Create"
  | .update => "Update"

/-- How a column is written. -/
inductive Treatment where
  | bind
  | now
  | null
  | omit
deriving DecidableEq, Repr

/-- The treatment of each role in each write. -/
def ColumnRole.treatment : ColumnRole → WriteKind → Treatment
  | .autoIdentity, .create => .null
  | .autoIdentity, .update => .omit
  | .createDate, .create => .now
  | .createDate, .update => .omit
  | .createUser, .create => .bind
  | .createUser, .update => .omit
  | .updateDate, _ => .now
  | .deleteUser, _ | .deleteDate, _ => .omit
  | .autoGuid, _ | .updateUser, _ | .deleted, _ | .standard, _ => .bind

/-- What a field writes into its column. -/
inductive FieldContent where
  | bound (name : String) (value : Value)
  | now
  | null
deriving Repr

namespace FieldContent

def piece : FieldContent → Piece
  | bound name _ => .marker name
  | now => .now
  | null => .null

def bindings : FieldContent → List (String × Value)
  | bound name value => [(name, value)]
  | now | null => []

end FieldContent

/-- A column that is written. -/
structure Field where
  column : String
  content : FieldContent
deriving Repr

/-- The name bound by the field at an index among those written. -/
def Field.bindName (column : String) (index : Nat) : String := column ++ "_" ++ toString index

/-- The role of a column when there may be no schema. -/
def Schema.roleIn (s : Option Schema) (column : String) : ColumnRole :=
  match s with
  | some s => s.role column
  | none => .standard

namespace Fields

/-- The fields for the given columns, the first of them at the given index. -/
def resolveFrom (role : String → ColumnRole) (kind : WriteKind) :
    Nat → List (String × Value) → List Field
  | _, [] => []
  | index, (column, value) :: rest =>
    match (role column).treatment kind with
    | .omit => resolveFrom role kind index rest
    | .now => ⟨column, .now⟩ :: resolveFrom role kind (index + 1) rest
    | .null => ⟨column, .null⟩ :: resolveFrom role kind (index + 1) rest
    | .bind =>
      ⟨column, .bound (Field.bindName column index) value⟩ :: resolveFrom role kind (index + 1) rest

/-- The fields that a write of a record has. -/
def resolve (record : Record) (schema : Option Schema) (kind : WriteKind) : List Field :=
  resolveFrom (Schema.roleIn schema) kind 0 record.toList

def bindings (fields : List Field) : List (String × Value) :=
  fields.flatMap fun f => f.content.bindings

/-- Column names: ` a, b`. -/
def columnPieces (fields : List Field) : List Piece :=
  .text " " :: List.intercalate [.text ", "] (fields.map fun f => [.text f.column])

/-- Contents: ` :a_0, NOW()`. -/
def valuePieces (fields : List Field) : List Piece :=
  .text " " :: List.intercalate [.text ", "] (fields.map fun f => [f.content.piece])

/-- Assignments: ` a = :a_0, b = NOW()`. -/
def setPieces (fields : List Field) : List Piece :=
  .text " " ::
    List.intercalate [.text ", "] (fields.map fun f => [.text (f.column ++ " = "), f.content.piece])

end Fields

end RowQuery
