import RowQuery.Filter
import RowQuery.OrderedMap
import RowQuery.Statement.Piece
/-!
# The text of a filter chain

Every clause uses up its position in the chain, also a token and a test that
binds nothing, so a clause's bind name depends on nothing that comes after it.
A clause that follows another one is joined by its keyword, except after an
opening token and before a closing one.
-/

namespace RowQuery

/-- Bind names and values, in the order in which they stand in the statement. -/
abbrev Params := OrderedMap Value

namespace Condition

/-- The name bound by a condition at a position of a chain. -/
def bindName (c : Condition) (position : Nat) : String :=
  c.parameter ++ "_w" ++ toString position

def pieces (c : Condition) (position : Nat) : List Piece :=
  if c.operator.isUnary then [.text (c.column ++ " " ++ c.operator.text)]
  else if c.operator.isList then
    [.text (c.column ++ " " ++ c.operator.text ++ " ( "), .marker (c.bindName position), .text " )"]
  else [.text (c.column ++ " " ++ c.operator.text ++ " "), .marker (c.bindName position)]

/-- What a condition binds; a unary test binds nothing. -/
def bindings (c : Condition) (position : Nat) : List (String × Value) :=
  if c.operator.isUnary then [] else [(c.bindName position, c.value)]

end Condition

namespace Clause

/-- The keyword that joins a clause to the one before it. -/
def joint : Clause → List Piece
  | group .closing _ => []
  | c =>
    match c.connector.keyword with
    | some k => [.text (" " ++ k)]
    | none => []

/-- The next clause starts a group, so it takes no keyword. -/
def opens : Clause → Bool
  | group .opening _ => true
  | _ => false

def pieces (position : Nat) : Clause → List Piece
  | group g _ => [.text (" " ++ g.token)]
  | condition c => .text " " :: c.pieces position

def bindings (position : Nat) : Clause → List (String × Value)
  | group _ _ => []
  | condition c => c.bindings position

end Clause

namespace Chain

/-- The clauses from a position on; `joins` says that the first of them is
joined to a clause before it. -/
def pieces (joins : Bool) (position : Nat) : Chain → List Piece
  | [] => []
  | c :: rest =>
    (if joins then c.joint else []) ++ c.pieces position ++ pieces (!c.opens) (position + 1) rest

/-- What the clauses from a position on bind. -/
def bindings (position : Nat) : Chain → List (String × Value)
  | [] => []
  | c :: rest => c.bindings position ++ bindings (position + 1) rest

/-- The whole fragment; an empty chain has none. -/
def whereClause : Chain → List Piece
  | [] => []
  | c => .text " WHERE" :: pieces false 0 c

/-- The bind map after the values of a chain. -/
def bind (c : Chain) (p : Params) : Params := p.insertAll (bindings 0 c)

end Chain

end RowQuery
