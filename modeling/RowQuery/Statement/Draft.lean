import RowQuery.Action
import RowQuery.CompileError
import RowQuery.Statement.Fields
import RowQuery.Statement.Fragment
import RowQuery.Statement.Where
/-!
# Drafts

A draft is a statement before a dialect is chosen: its fragments as pieces and
its bind map. Each action has a form (`Action.form`) that says how the
fragments make up the statement.
-/

namespace RowQuery

/-- An entry of a statement's form. -/
inductive Slot where
  | text (s : String)
  | countAlias
  | fragment (name : FragmentName)
deriving DecidableEq, Repr

/-- The write that an action is, if it writes a record. -/
def Action.writeKind? : Action → Option WriteKind
  | .create => some .create
  | .update => some .update
  | .read | .delete | .count => none

/-- The form of an action's statement. -/
def Action.form : Action → List Slot
  | .create =>
    [.text "INSERT INTO", .fragment .table, .text " (", .fragment .columns, .text ") VALUES (",
     .fragment .values, .text ");"]
  | .read =>
    [.text "SELECT", .fragment .fieldList, .text " FROM", .fragment .table, .fragment .whereClause,
     .fragment .orderBy, .fragment .limit, .text ";"]
  | .update =>
    [.text "UPDATE", .fragment .table, .text " SET", .fragment .set, .fragment .whereClause, .text ";"]
  | .delete => [.text "DELETE FROM", .fragment .table, .fragment .whereClause, .text ";"]
  | .count =>
    [.text "SELECT COUNT(*) AS ", .countAlias, .text " FROM", .fragment .table,
     .fragment .whereClause, .text ";"]

structure Draft where
  fragments : Fragments (List Piece)
  params : Params

namespace Draft

/-- A slot of a form, filled in. -/
def slot (f : Fragments (List Piece)) : Slot → List Piece
  | .text s => [.text s]
  | .countAlias => [.countAlias]
  | .fragment name => f.get name

/-- The whole statement of an action. -/
def body (d : Draft) (a : Action) : List Piece := a.form.flatMap (slot d.fragments)

end Draft

/-- The sorted columns: ` ORDER BY a, b DESC`. -/
def SortKey.orderBy : List SortKey → List Piece
  | [] => []
  | keys =>
    .text " ORDER BY " ::
      List.intercalate [.text ", "] (keys.map fun k => [.text k.column, .sortSuffix k.direction])

namespace Descriptor

/-- The projection: ` *`, or ` a, b`. -/
def fieldList (d : Descriptor) : List Piece :=
  match d.projection with
  | [] => [.text " *"]
  | columns => [.text (" " ++ ", ".intercalate columns)]

/-- The fields that a write of the first record has. -/
def writeFields (d : Descriptor) (kind : WriteKind) : List Field :=
  match d.record? with
  | some record => Fields.resolve record d.schema? kind
  | none => []

/-- The fragments every statement has. -/
def tableFragment (d : Descriptor) : Fragments (List Piece) :=
  { Fragments.all [] with table := [.text " ", .table d.scope] }

/-- The draft of an action. A write without fields has none. -/
def draft (d : Descriptor) : Action → Except CompileError Draft
  | .create =>
    let fields := d.writeFields .create
    if fields.isEmpty then .error (.emptyFieldSet d.scope)
    else
      .ok {
        fragments := { d.tableFragment with
          columns := Fields.columnPieces fields, values := Fields.valuePieces fields }
        params := .ofList (Fields.bindings fields) }
  | .update =>
    let fields := d.writeFields .update
    if fields.isEmpty then .error (.emptyFieldSet d.scope)
    else
      .ok {
        fragments := { d.tableFragment with
          set := Fields.setPieces fields, whereClause := Chain.whereClause d.filters }
        params := Chain.bind d.filters (.ofList (Fields.bindings fields)) }
  | .read =>
    .ok {
      fragments := { d.tableFragment with
        fieldList := d.fieldList
        whereClause := Chain.whereClause d.filters
        orderBy := SortKey.orderBy d.sort
        limit := [.limit d.pagination.begin? d.pagination.cap?] }
      params := Chain.bind d.filters .empty }
  | .delete | .count =>
    .ok {
      fragments := { d.tableFragment with whereClause := Chain.whereClause d.filters }
      params := Chain.bind d.filters .empty }

end Descriptor

end RowQuery
