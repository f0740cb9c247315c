import RowQuery.Descriptor
/-!
# Edits of a descriptor

The settings of a descriptor as data, so that a sequence of them is a value.
-/

namespace RowQuery

/-- One setting of a descriptor. -/
inductive Edit where
  | setScope (scope : String)
  | addRecord (pairs : List (String × Value))
  | setRecords (records : List Record)
  | addFilter (column : String) (value : Value)
  | addFilterWith (column : String) (value : Value) (o : Operator) (k : Connector)
  | addFilterClause (c : Clause)
  | setFilter (c : Clause)
  | setFilters (cs : Chain)
  | addSort (s : SortKey)
  | setSort (s : List SortKey)
  | setBegin (n : UInt64)
  | setCap (n : UInt64)
  | setPagination (p : Pagination)
  | setProjection (columns : List String)
  | setSchema (defs : List ColumnDefinition)
  | clearSchema
  | setOverride (template : String)
  | clearOverride
  | setLogLevel (n : UInt8)

namespace Descriptor

/-- The descriptor after one setting. -/
def edit (d : Descriptor) : Edit → Descriptor
  | .setScope s => d.setScope s
  | .addRecord pairs => d.addRecord pairs
  | .setRecords rs => d.setRecords rs
  | .addFilter column value => d.addFilter column value
  | .addFilterWith column value o k => d.addFilterWith column value o k
  | .addFilterClause c => d.addFilterClause c
  | .setFilter c => d.setFilter c
  | .setFilters cs => d.setFilters cs
  | .addSort s => d.addSort s
  | .setSort s => d.setSort s
  | .setBegin n => d.setBegin n
  | .setCap n => d.setCap n
  | .setPagination p => d.setPagination p
  | .setProjection columns => d.setProjection columns
  | .setSchema defs => d.setSchema defs
  | .clearSchema => d.clearSchema
  | .setOverride template => d.setOverride template
  | .clearOverride => d.clearOverride
  | .setLogLevel n => d.setLogLevel n

/-- The descriptor after a sequence of settings. -/
def editAll (d : Descriptor) (edits : List Edit) : Descriptor := edits.foldl edit d

end Descriptor

end RowQuery
