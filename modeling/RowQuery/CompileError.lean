import RowQuery.Template
/-!
# Why a descriptor has no statement

Both causes are faults of the data, for the caller to mend.
-/

namespace RowQuery

inductive CompileError where
  /-- A create or an update has no column to write. -/
  | emptyFieldSet (scope : String)
  /-- The template that replaces the statement cannot be read or filled in. -/
  | malformedTemplate (e : Template.Malformed)
deriving DecidableEq, Repr

def CompileError.message : CompileError → String
  | emptyFieldSet scope => "No fields to write for scope '" ++ scope ++ "'"
  | malformedTemplate e =>
    "Malformed template at position " ++ toString e.position ++ ": " ++ e.fault.reason

end RowQuery
