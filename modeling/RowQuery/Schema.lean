import RowQuery.OrderedMap
/-!
# Column roles

A schema gives columns the role they play: identity, audit stamps, marks of
deletion. A column without a role of its own is `standard`.
-/

namespace RowQuery

inductive ColumnRole where
  | autoIdentity
  | autoGuid
  | createDate
  | createUser
  | updateDate
  | updateUser
  | deleted
  | deleteUser
  | deleteDate
  | standard
deriving DecidableEq, Repr, Inhabited

namespace ColumnRole

def all : List ColumnRole :=
  [autoIdentity, autoGuid, createDate, createUser, updateDate, updateUser, deleted, deleteUser,
   deleteDate, standard]

def name : ColumnRole → String
  | autoIdentity => "AutoIdentity"
  | autoGuid => "AutoGUID"
  | createDate => "CreateDate"
  | createUser => "CreateIDUser"
  | updateDate => "UpdateDate"
  | updateUser => "UpdateIDUser"
  | deleted => "Deleted"
  | deleteUser => "DeleteIDUser"
  | deleteDate => "DeleteDate"
  | standard => "Standard"

/-- The role of that name; any other name is `standard`. -/
def ofName (s : String) : ColumnRole := (all.find? fun r => r.name = s).getD standard

theorem ofName_name (r : ColumnRole) : ofName r.name = r := by cases r <;> decide

end ColumnRole

/-- A column with its role, as a schema lists it. -/
structure ColumnDefinition where
  column : String
  role : ColumnRole
deriving DecidableEq, Repr

/-- The roles of columns, in the order in which the columns were first listed. -/
structure Schema where
  roles : OrderedMap ColumnRole
deriving DecidableEq, Repr, Inhabited

namespace Schema

/-- The last definition of a column decides. -/
def ofDefinitions (defs : List ColumnDefinition) : Schema :=
  ⟨.ofList (defs.map fun d => (d.column, d.role))⟩

def definitions (s : Schema) : List ColumnDefinition :=
  s.roles.toList.map fun (column, role) => ⟨column, role⟩

/-- The role of a column; an unlisted column is `standard`. -/
def role (s : Schema) (column : String) : ColumnRole := (s.roles.get? column).getD .standard

def size (s : Schema) : Nat := s.roles.size

def isEmpty (s : Schema) : Bool := s.roles.isEmpty

end Schema

end RowQuery
