import RowQuery.Text.Blank
/-!
# Comparison operators

An operator is read from text without regard to blanks around it or to the case
of its letters. Text that names none of the known operators is kept as it
stands and used as a binary operator.
-/

namespace RowQuery

inductive Operator where
  | eq
  | ne
  | lt
  | le
  | gt
  | ge
  | like
  | notLike
  | inList
  | notInList
  | isNull
  | isNotNull
  | openGroup
  | closeGroup
  | custom (text : String)
deriving DecidableEq, Repr, Inhabited

namespace Operator

/-- The operator as it stands in a statement. -/
def text : Operator → String
  | eq => "="
  | ne => "!="
  | lt => "<"
  | le => "<="
  | gt => ">"
  | ge => ">="
  | like => "LIKE"
  | notLike => "NOT LIKE"
  | inList => "IN"
  | notInList => "NOT IN"
  | isNull => "IS NULL"
  | isNotNull => "IS NOT NULL"
  | openGroup => "("
  | closeGroup => ")"
  | custom text => text

/-- It takes no right-hand side and binds nothing. -/
def isUnary : Operator → Bool
  | isNull | isNotNull => true
  | _ => false

/-- Its right-hand side is a list in parentheses. -/
def isList : Operator → Bool
  | inList | notInList => true
  | _ => false

/-- It opens or closes a group. -/
def isGrouping : Operator → Bool
  | openGroup | closeGroup => true
  | _ => false

/-- The spellings, in capitals, that name an operator. No text at all means equality. -/
def spellings : List (String × Operator) :=
  [("", eq), ("=", eq), ("==", eq), ("!=", ne), ("<>", ne), ("<", lt), ("<=", le), (">", gt),
   (">=", ge), ("LIKE", like), ("NOT LIKE", notLike), ("IN", inList), ("NOT IN", notInList),
   ("IS NULL", isNull), ("IS NOT NULL", isNotNull), ("(", openGroup), (")", closeGroup)]

/-- Reads an operator; unknown text, without the blanks around it, names itself. -/
def parse (s : String) : Operator :=
  let t := Text.trim s
  (spellings.lookup t.toUpper).getD (custom t)

end Operator

end RowQuery
