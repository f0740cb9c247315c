import RowQuery.Proofs.ChainAppend
/-!
# Filter expressions

An expression is a row of items, each of them a condition or a group around an
expression of its own. Its chain is the items from left to right, a group between
two tokens. The text of that chain is the expression as it is written by hand
(`FilterExpression.write_whereClause`): the keyword of an item stands between it
and its left neighbour, so the first item of the expression or of a group has
none, and a condition is bound by its position in the whole chain.
-/

namespace RowQuery

mutual
/-- One item of an expression. A condition has its connector in it. The connector of a
closing token may be anything. -/
inductive FilterItem where
  | condition (c : Condition)
  | group (connector closing : Connector) (inner : FilterExpression)

/-- One item or more. -/
inductive FilterExpression where
  | one (x : FilterItem)
  | more (x : FilterItem) (rest : FilterExpression)
end

/-! ## The chain -/

mutual
def FilterItem.chain : FilterItem → Chain
  | .condition c => [.condition c]
  | .group connector closing inner =>
    .group .opening connector :: (inner.chain ++ [.group .closing closing])

def FilterExpression.chain : FilterExpression → Chain
  | .one x => x.chain
  | .more x rest => x.chain ++ rest.chain
end

/-! ## The text -/

/-- The keyword in front of an item, with the blank behind it. -/
def Connector.lead : Connector → String
  | .and => "AND "
  | .or => "OR "
  | .bare => ""

/-- A condition at a position of a chain. -/
def Condition.text (g : Dialect) (position : Nat) (c : Condition) : String :=
  let test := c.column ++ " " ++ c.operator.text
  let marker := g.marker (c.parameter ++ "_w" ++ toString position)
  if c.operator.isUnary then test
  else if c.operator.isList then test ++ " ( " ++ marker ++ " )"
  else test ++ " " ++ marker

def FilterItem.connector : FilterItem → Connector
  | condition c => c.connector
  | group connector _ _ => connector

/-- The connector of the first item. -/
def FilterExpression.connector : FilterExpression → Connector
  | one x => x.connector
  | more x _ => x.connector

mutual
/-- An item whose chain begins at a position. -/
def FilterItem.text (g : Dialect) (position : Nat) : FilterItem → String
  | .condition c => c.text g position
  | .group _ _ inner => "( " ++ inner.text g (position + 1) ++ " )"

/-- An expression whose chain begins at a position. -/
def FilterExpression.text (g : Dialect) (position : Nat) : FilterExpression → String
  | .one x => x.text g position
  | .more x rest =>
    x.text g position ++ " " ++ rest.connector.lead ++ rest.text g (position + x.chain.length)
end

/-! ## The text of the chain -/

/-- What joins a clause to the one before it. -/
def Connector.joined (joins : Bool) (k : Connector) : String := if joins then " " ++ k.lead else " "

theorem Clause.write_joint (g : Dialect) (joins : Bool) {x : Clause} (hx : ∀ k, x ≠ .group .closing k) :
    g.write (if joins then x.joint else []) ++ " " = x.connector.joined joins := by
  cases joins with
  | false => simp [Connector.joined]
  | true =>
    have hjoint : x.joint = (x.connector.keyword.map fun k => Piece.text (" " ++ k)).toList := by
      cases x with
      | condition c => cases hk : c.connector <;> simp [joint, connector, hk, Connector.keyword]
      | group h k =>
        cases h with
        | opening => cases k <;> rfl
        | closing => exact absurd rfl (hx k)
    rw [hjoint]
    cases x.connector <;> simp [Connector.keyword, Connector.joined, Connector.lead, Dialect.writePiece]

theorem Condition.write_pieces (g : Dialect) (position : Nat) (c : Condition) :
    g.write (c.pieces position) = c.text g position := by
  unfold pieces text
  split
  · simp [Dialect.writePiece]
  · split <;> simp [Dialect.writePiece, bindName, String.append_assoc]

theorem FilterItem.joinsNext_chain (joins : Bool) (x : FilterItem) : Chain.joinsNext joins x.chain = true := by
  cases x with
  | condition c => rfl
  | group connector closing inner =>
    rw [chain, Chain.joinsNext, Chain.joinsNext_append]
    rfl

mutual
/-- The clauses of an item are written as the item, behind what joins it. -/
theorem FilterItem.write_chain (g : Dialect) (joins : Bool) (position : Nat) (x : FilterItem) :
    g.write (Chain.pieces joins position x.chain) = x.connector.joined joins ++ x.text g position := by
  match x with
  | .condition c =>
    have hjoint := (Clause.condition c).write_joint g joins (by simp)
    rw [FilterItem.chain, Chain.pieces, Chain.pieces, List.append_nil, Dialect.write_append, Clause.pieces,
      Dialect.write_cons, Dialect.writePiece, ← String.append_assoc, hjoint, c.write_pieces g position]
    rfl
  | .group connector closing inner =>
    have hjoint := (Clause.group .opening connector).write_joint g joins (by simp)
    have hinner := FilterExpression.write_chain g false (position + 1) inner
    have hopen : g.write (Clause.pieces position (.group .opening connector)) = " " ++ "(" := rfl
    -- The closing token takes no keyword, whatever stands before it.
    have hclose (j : Bool) (n : Nat) : g.write (Chain.pieces j n [.group .closing closing]) = " )" := by
      cases j <;> rfl
    calc
      g.write (Chain.pieces joins position (FilterItem.group connector closing inner).chain)
      _ = g.write (if joins then (Clause.group .opening connector).joint else []) ++ (" " ++ "(") ++
          (" " ++ inner.text g (position + 1) ++ " )") := by
        rw [FilterItem.chain, Chain.pieces, Chain.pieces_append]
        simp only [Dialect.write_append, hopen, hclose]
        rw [Clause.opens, Bool.not_true, hinner]
        rfl
      _ = Connector.joined joins connector ++ ("(" ++ " " ++ inner.text g (position + 1) ++ " )") := by
        simp only [← String.append_assoc, hjoint]
        rfl
      _ = Connector.joined joins connector ++ (FilterItem.group connector closing inner).text g position := rfl

/-- The clauses of an expression are written as the expression, behind what joins its first item. -/
theorem FilterExpression.write_chain (g : Dialect) (joins : Bool) (position : Nat) (e : FilterExpression) :
    g.write (Chain.pieces joins position e.chain) = e.connector.joined joins ++ e.text g position := by
  match e with
  | .one x => exact FilterItem.write_chain g joins position x
  | .more x rest =>
    have hx := FilterItem.write_chain g joins position x
    have hrest := FilterExpression.write_chain g true (position + x.chain.length) rest
    rw [FilterExpression.chain, Chain.pieces_append, FilterItem.joinsNext_chain, Dialect.write_append, hx, hrest]
    simp only [FilterExpression.text, FilterExpression.connector, Connector.joined, if_true, String.append_assoc]
end

theorem FilterItem.chain_ne_nil (x : FilterItem) : x.chain ≠ [] := by
  cases x <;> simp [chain]

theorem FilterExpression.chain_ne_nil (e : FilterExpression) : e.chain ≠ [] := by
  cases e with
  | one x => exact x.chain_ne_nil
  | more x rest => exact List.append_ne_nil_of_left_ne_nil x.chain_ne_nil rest.chain

/-- In every dialect the chain of an expression is written as the expression. -/
theorem FilterExpression.write_whereClause (e : FilterExpression) (g : Dialect) :
    g.write (Chain.whereClause e.chain) = " WHERE " ++ e.text g 0 := by
  rw [Chain.whereClause_of_ne_nil e.chain_ne_nil, Dialect.write_cons, e.write_chain g false 0, Connector.joined,
    ← String.append_assoc]
  rfl

/-- A group between two conditions: its tokens count as positions, its first item takes no keyword. -/
example :
    let test (column : String) (o : Operator) (k : Connector) : FilterItem :=
      .condition (((Condition.new column .null).withOperator o).withConnector k)
    let either : FilterExpression := .more (test "Color" .eq .and) (.one (test "Color" .ne .or))
    (FilterExpression.more (test "Age" .isNotNull .or)
      (.more (.group .and .bare either) (.one (test "IDOffice" .inList .bare)))).text .mysql 0 =
        "Age IS NOT NULL AND ( Color = :Color_w2 OR Color != :Color_w3 ) IDOffice IN ( :IDOffice_w5 )" := by
  decide

end RowQuery
