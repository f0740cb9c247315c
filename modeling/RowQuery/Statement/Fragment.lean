/-!
# Fragments of a statement

A statement is put together from eight fragments. Each keeps the blank in front
of it and is empty when the statement has no such part. A template refers to a
fragment by its placeholder.
-/

namespace RowQuery

/-- The parts of a statement that a template can refer to. -/
inductive FragmentName where
  | table
  | fieldList
  | whereClause
  | orderBy
  | limit
  | set
  | columns
  | values
deriving DecidableEq, Repr

namespace FragmentName

def all : List FragmentName :=
  [table, fieldList, whereClause, orderBy, limit, set, columns, values]

/-- The name a placeholder uses. -/
def placeholder : FragmentName → String
  | table => "TableName"
  | fieldList => "FieldList"
  | whereClause => "Where"
  | orderBy => "OrderBy"
  | limit => "Limit"
  | set => "Set"
  | columns => "Columns"
  | values => "Values"

/-- The fragment a placeholder names. -/
def ofPlaceholder? (s : String) : Option FragmentName := all.find? fun n => n.placeholder = s

theorem ofPlaceholder?_placeholder (n : FragmentName) : ofPlaceholder? n.placeholder = some n := by
  cases n <;> decide

end FragmentName

/-- One thing per fragment. -/
structure Fragments (α : Type) where
  table : α
  fieldList : α
  whereClause : α
  orderBy : α
  limit : α
  set : α
  columns : α
  values : α
deriving DecidableEq, Repr

namespace Fragments

variable {α β : Type}

/-- The same thing for every fragment. -/
def all (x : α) : Fragments α := ⟨x, x, x, x, x, x, x, x⟩

def get (f : Fragments α) : FragmentName → α
  | .table => f.table
  | .fieldList => f.fieldList
  | .whereClause => f.whereClause
  | .orderBy => f.orderBy
  | .limit => f.limit
  | .set => f.set
  | .columns => f.columns
  | .values => f.values

def map (g : α → β) (f : Fragments α) : Fragments β :=
  ⟨g f.table, g f.fieldList, g f.whereClause, g f.orderBy, g f.limit, g f.set, g f.columns, g f.values⟩

@[simp] theorem get_map (g : α → β) (f : Fragments α) (n : FragmentName) :
    (f.map g).get n = g (f.get n) := by cases n <;> rfl

end Fragments

end RowQuery
