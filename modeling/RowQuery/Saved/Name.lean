import RowQuery.Action
import RowQuery.Dialect
import RowQuery.Tree.Decode
/-!
# Saved names

Actions, dialects and output formats are saved by name.
-/

namespace RowQuery

namespace Action

def variants : Tree.Variants Action where
  names := all.map fun a => (a.name, a)

def toTree (a : Action) : Tree := .string a.name

def ofTree (f : Format) (t : Tree) : Tree.Read Action := t.asVariant f variants

end Action

namespace KnownDialect

/-- A dialect's name, as it is written or in small letters. -/
def variants : Tree.Variants KnownDialect where
  names := all.flatMap fun d => [(d.name, d), (d.name.toLower, d)]

def toTree (d : KnownDialect) : Tree := .string d.name

def ofTree (f : Format) (t : Tree) : Tree.Read KnownDialect := t.asVariant f variants

end KnownDialect

/-- How a compiled statement is shown. -/
inductive OutputFormat where
  | text
  | json
deriving DecidableEq, Repr

namespace OutputFormat

def all : List OutputFormat := [text, json]

def name : OutputFormat → String
  | text => "text"
  | json => "json"

def variants : Tree.Variants OutputFormat where
  names := all.map fun f => (f.name, f)

def ofTree (f : Format) (t : Tree) : Tree.Read OutputFormat := t.asVariant f variants

end OutputFormat

end RowQuery
