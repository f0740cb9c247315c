import RowQuery.Text.Blank
/-!
# Connectors and directions

A connector joins a clause to the one before it. A direction orders a sorted
column.
-/

namespace RowQuery

inductive Connector where
  | and
  | or
  /-- No keyword at all. -/
  | bare
deriving DecidableEq, Repr, Inhabited

namespace Connector

/-- The keyword between two clauses, if there is one. -/
def keyword : Connector → Option String
  | and => some "AND"
  | or => some "OR"
  | bare => none

/-- The text that names a connector. -/
def text (c : Connector) : String := c.keyword.getD "NONE"

/-- Reads a connector without regard to blanks around it or to case. Unknown
text is `and`. -/
def parse (s : String) : Connector :=
  let t := (Text.trim s).toUpper
  if t = "OR" then or else if t = "NONE" then bare else and

end Connector

inductive Direction where
  | ascending
  | descending
deriving DecidableEq, Repr, Inhabited

end RowQuery
