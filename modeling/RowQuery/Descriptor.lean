import RowQuery.Filter
import RowQuery.Schema
/-!
# Descriptors

A descriptor says, without naming a dialect, which rows of which table an
operation is about and what it does with them. It starts empty and is built up
one setting at a time; each setting replaces or extends one part and leaves
the others alone.
-/

namespace RowQuery

/-- One row: the values of its columns, in order. -/
abbrev Record := OrderedMap Value

/-- The window of rows a read returns. -/
structure Pagination where
  begin? : Option UInt64
  cap? : Option UInt64
deriving DecidableEq, Repr, Inhabited

structure Descriptor where
  /-- The name of the table. -/
  scope : String
  records : List Record
  filters : Chain
  sort : List SortKey
  pagination : Pagination
  /-- The columns asked for; none means all. -/
  projection : List String
  schema? : Option Schema
  /-- A template that replaces the statement's own form. -/
  override? : Option String
  /-- From 5 on, every compiled body is logged. -/
  logLevel : UInt8
deriving Repr

namespace Descriptor

/-- The descriptor with nothing set. -/
def empty : Descriptor := ⟨"", [], [], [], ⟨none, none⟩, [], none, none, 0⟩

instance : Inhabited Descriptor := ⟨empty⟩

def new (scope : String) : Descriptor := { empty with scope := scope }

def setScope (d : Descriptor) (scope : String) : Descriptor := { d with scope := scope }

def addRecord (d : Descriptor) (pairs : List (String × Value)) : Descriptor :=
  { d with records := d.records ++ [.ofList pairs] }

def setRecords (d : Descriptor) (records : List Record) : Descriptor := { d with records := records }

def addFilterClause (d : Descriptor) (c : Clause) : Descriptor :=
  { d with filters := d.filters ++ [c] }

/-- Adds a clause from its parts; see `Clause.new`. -/
def addFilterWith (d : Descriptor) (column : String) (value : Value) (o : Operator) (k : Connector) :
    Descriptor :=
  d.addFilterClause (.new column value o k)

/-- Adds `column = value`, joined by `and`. -/
def addFilter (d : Descriptor) (column : String) (value : Value) : Descriptor :=
  d.addFilterWith column value .eq .and

/-- Replaces the whole chain by one clause. -/
def setFilter (d : Descriptor) (c : Clause) : Descriptor := { d with filters := [c] }

def setFilters (d : Descriptor) (cs : Chain) : Descriptor := { d with filters := cs }

def addSort (d : Descriptor) (s : SortKey) : Descriptor := { d with sort := d.sort ++ [s] }

def setSort (d : Descriptor) (s : List SortKey) : Descriptor := { d with sort := s }

def setBegin (d : Descriptor) (n : UInt64) : Descriptor :=
  { d with pagination := { d.pagination with begin? := some n } }

def setCap (d : Descriptor) (n : UInt64) : Descriptor :=
  { d with pagination := { d.pagination with cap? := some n } }

def setPagination (d : Descriptor) (p : Pagination) : Descriptor := { d with pagination := p }

def setProjection (d : Descriptor) (columns : List String) : Descriptor :=
  { d with projection := columns }

def setSchema (d : Descriptor) (defs : List ColumnDefinition) : Descriptor :=
  { d with schema? := some (.ofDefinitions defs) }

def clearSchema (d : Descriptor) : Descriptor := { d with schema? := none }

def setOverride (d : Descriptor) (template : String) : Descriptor :=
  { d with override? := some template }

def clearOverride (d : Descriptor) : Descriptor := { d with override? := none }

def setLogLevel (d : Descriptor) (n : UInt8) : Descriptor := { d with logLevel := n }

/-- The record that a create or an update writes. Later records are not compiled. -/
def record? (d : Descriptor) : Option Record := d.records.head?

end Descriptor

end RowQuery
