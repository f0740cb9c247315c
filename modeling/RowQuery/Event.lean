import RowQuery.Action
import RowQuery.CompileError
import RowQuery.Statement.Fields
/-!
# Log events

Compiling a descriptor yields a list of events beside its result. An event is
data; its level, the part of the compiler it comes from, its message and its
fields are functions of it. No event holds a value that the statement binds.
-/

namespace RowQuery

/-- Levels, the most urgent first. -/
inductive LogLevel where
  | error
  | warn
  | info
  | debug
  | trace
deriving DecidableEq, Repr

/-- The rank of a level: higher is more talkative. -/
def LogLevel.rank : LogLevel → Nat
  | .error => 1
  | .warn => 2
  | .info => 3
  | .debug => 4
  | .trace => 5

def LogLevel.name : LogLevel → String
  | .error => "ERROR"
  | .warn => "WARN"
  | .info => "INFO"
  | .debug => "DEBUG"
  | .trace => "TRACE"

/-- A named detail of an event. A quoted one stands in quotes in a log line. -/
structure LogField where
  name : String
  text : String
  quoted : Bool
deriving DecidableEq, Repr

inductive Event where
  | fieldOmitted (column : String) (role : ColumnRole) (kind : WriteKind)
  | fieldLiteral (column : String) (role : ColumnRole) (text : String)
  | unaryFilter (column : String) (position : Nat)
  | noFields (kind : WriteKind) (scope : String)
  | compiled (dialect : String) (action : Action) (scope : String) (params : Nat) (body : String)
  | body (action : Action) (text : String)
  | failed (dialect : String) (action : Action) (scope : String) (e : CompileError)
deriving DecidableEq, Repr

namespace Event

def level : Event → LogLevel
  | fieldOmitted .. | fieldLiteral .. | unaryFilter .. => .trace
  | noFields .. | compiled .. => .debug
  | body .. => .info
  | failed .. => .warn

/-- The part of the compiler an event comes from. -/
def target : Event → String
  | fieldOmitted .. | fieldLiteral .. => "quarry::transpiler::fields"
  | unaryFilter .. => "quarry::transpiler::conditions"
  | noFields .create _ => "quarry::transpiler::dml::insert"
  | noFields .update _ => "quarry::transpiler::dml::update"
  | compiled .. | body .. | failed .. => "quarry::transpiler"

def message : Event → String
  | fieldOmitted .. => "field omitted"
  | fieldLiteral .. => "field rendered as literal"
  | unaryFilter .. => "unary filter binds nothing"
  | noFields .create _ => "insert has no fields"
  | noFields .update _ => "update has no fields"
  | compiled .. => "compiled query"
  | body _ text => text
  | failed _ _ _ e => "compile failed: " ++ e.message

/-- The details of an event, in the order in which they are logged. -/
def fields : Event → List LogField
  | fieldOmitted column role kind =>
    [⟨"column", column, false⟩, ⟨"role", role.name, false⟩, ⟨"kind", kind.name, false⟩]
  | fieldLiteral column role text =>
    [⟨"column", column, false⟩, ⟨"role", role.name, false⟩, ⟨"literal", text, false⟩]
  | unaryFilter column position =>
    [⟨"column", column, false⟩, ⟨"index", toString position, false⟩]
  | noFields _ scope => [⟨"scope", scope, false⟩]
  | compiled dialect action scope params text =>
    [⟨"dialect", dialect, true⟩, ⟨"action", action.display, false⟩, ⟨"scope", scope, false⟩,
     ⟨"params", toString params, false⟩, ⟨"body", text, false⟩]
  | body action _ => [⟨"action", action.display, false⟩]
  | failed dialect action scope _ =>
    [⟨"dialect", dialect, true⟩, ⟨"action", action.display, false⟩, ⟨"scope", scope, false⟩]

end Event

end RowQuery
