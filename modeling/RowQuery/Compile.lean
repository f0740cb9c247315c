import RowQuery.Event
import RowQuery.Statement.Draft
/-!
# Compiling a descriptor

`Descriptor.compile` turns a descriptor, an action and a dialect into the text
of a statement and its bind map. `Descriptor.events` lists what is logged on
the way. Both are functions of their arguments alone.
-/

namespace RowQuery

structure Compiled where
  /-- The text of the statement. -/
  body : String
  params : Params
  /-- The fragments the body was made from. -/
  fragments : Fragments String
deriving Repr

namespace Descriptor

/-- The body of a draft: the statement's own form, or the template that
replaces it. -/
def bodyOf (d : Descriptor) (a : Action) (g : Dialect) (draft : Draft) : Except CompileError String :=
  match d.override? with
  | none => .ok (g.write (draft.body a))
  | some template =>
    match Template.render template (draft.fragments.map g.write) with
    | .ok body => .ok body
    | .error e => .error (.malformedTemplate e)

/-- Compiles a descriptor for an action in a dialect. -/
def compile (d : Descriptor) (a : Action) (g : Dialect) : Except CompileError Compiled :=
  match d.draft a with
  | .error e => .error e
  | .ok draft =>
    match d.bodyOf a g draft with
    | .error e => .error e
    | .ok body => .ok ⟨body, draft.params, draft.fragments.map g.write⟩

/-- What the columns of a record log: those left out and those written as literals. -/
def columnEvents (role : String → ColumnRole) (kind : WriteKind) (g : Dialect) :
    List (String × Value) → List Event
  | [] => []
  | (column, _) :: rest =>
    (match (role column).treatment kind with
      | .omit => [.fieldOmitted column (role column) kind]
      | .now => [.fieldLiteral column (role column) g.now]
      | .null => [.fieldLiteral column (role column) g.null]
      | .bind => []) ++ columnEvents role kind g rest

/-- What the fields of a write log. -/
def fieldEvents (record : Record) (schema : Option Schema) (kind : WriteKind) (g : Dialect) :
    List Event :=
  columnEvents (Schema.roleIn schema) kind g record.toList

end Descriptor

namespace Chain

/-- What the clauses from a position on log: the tests that bind nothing. -/
def events (position : Nat) : Chain → List Event
  | [] => []
  | .condition c :: rest =>
    (if c.operator.isUnary then [.unaryFilter c.column position] else []) ++
      events (position + 1) rest
  | .group _ _ :: rest => events (position + 1) rest

end Chain

namespace Descriptor

/-- What a write logs before its filter: its columns, and whether none is left. -/
def writeEvents (d : Descriptor) (kind : WriteKind) (g : Dialect) : List Event :=
  (match d.record? with
    | some record => fieldEvents record d.schema? kind g
    | none => []) ++
    if (d.writeFields kind).isEmpty then [.noFields kind d.scope] else []

/-- What the parts of a statement log. -/
def partEvents (d : Descriptor) (a : Action) (g : Dialect) : List Event :=
  match a with
  | .create => d.writeEvents .create g
  | .update =>
    d.writeEvents .update g ++
      if (d.writeFields .update).isEmpty then [] else Chain.events 0 d.filters
  | .read | .delete | .count => Chain.events 0 d.filters

/-- From this log level on, every compiled body is logged. -/
def bodyLogLevel : UInt8 := 5

/-- What is logged about the result. -/
def resultEvents (d : Descriptor) (a : Action) (g : Dialect) : List Event :=
  match d.compile a g with
  | .ok c =>
    .compiled g.name a d.scope c.params.size c.body ::
      if bodyLogLevel ≤ d.logLevel then [.body a c.body] else []
  | .error e => [.failed g.name a d.scope e]

/-- Everything logged while a descriptor is compiled, in order. -/
def events (d : Descriptor) (a : Action) (g : Dialect) : List Event :=
  d.partEvents a g ++ d.resultEvents a g

end Descriptor

end RowQuery
