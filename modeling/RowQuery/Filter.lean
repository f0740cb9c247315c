import RowQuery.Value
import RowQuery.Operator
import RowQuery.Connector
/-!
# Filter chains

A chain is a list of clauses: conditions on columns, and tokens that open and
close groups. A clause is addressed by its position in the chain, and the
position is part of the name it binds.
-/

namespace RowQuery

inductive Grouping where
  | opening
  | closing
deriving DecidableEq, Repr

def Grouping.token : Grouping → String
  | .opening => "("
  | .closing => ")"

/-- A test on one column. `parameter` is the stem of the name it binds. -/
structure Condition where
  column : String
  operator : Operator
  value : Value
  connector : Connector
  parameter : String
deriving Repr

namespace Condition

/-- `column = value`, joined by `and`, bound under the column's name. -/
def new (column : String) (value : Value) : Condition := ⟨column, .eq, value, .and, column⟩

def withOperator (c : Condition) (o : Operator) : Condition := { c with operator := o }

def withConnector (c : Condition) (k : Connector) : Condition := { c with connector := k }

def withParameter (c : Condition) (p : String) : Condition := { c with parameter := p }

end Condition

inductive Clause where
  | condition (c : Condition)
  | group (g : Grouping) (connector : Connector)
deriving Repr

namespace Clause

/-- A clause from its parts. A grouping operator makes a group token, and the
column and value are then dropped. -/
def new (column : String) (value : Value) (o : Operator) (k : Connector) : Clause :=
  match o with
  | .openGroup => group .opening k
  | .closeGroup => group .closing k
  | o => condition (((Condition.new column value).withOperator o).withConnector k)

def opening : Clause := group .opening .and

def closing : Clause := group .closing .and

def connector : Clause → Connector
  | condition c => c.connector
  | group _ k => k

/-- The clause with another stem for its bind name; a group token binds nothing. -/
def withParameter (c : Clause) (p : String) : Clause :=
  match c with
  | condition c => condition (c.withParameter p)
  | group g k => group g k

end Clause

/-- The clauses of a filter, first to last. -/
abbrev Chain := List Clause

/-- A column to sort by. -/
structure SortKey where
  column : String
  direction : Direction
deriving DecidableEq, Repr

end RowQuery
