import RowQuery.Number.Layout
/-!
# Values

A value is what a record holds in a column or what a filter compares with. It is
bound to a name in the bind map and never becomes part of a statement's text.
-/

namespace RowQuery

inductive Value where
  | null
  | bool (b : Bool)
  | int (n : Int64)
  | float (x : Binary64)
  | string (s : String)
  | array (items : List Value)
deriving Repr, Inhabited

namespace Value

/-- A list of values, bound whole. -/
def isMulti : Value → Bool
  | array _ => true
  | _ => false

/-- A value that may be absent; absent is `null`. -/
def ofOption : Option Value → Value
  | some v => v
  | none => null

mutual
/-- A value as it is shown to a person. Text is quoted but not escaped. -/
def display : Value → String
  | null => "NULL"
  | bool b => if b then "true" else "false"
  | int n => intText n.toInt
  | float x => x.display
  | string s => "'" ++ s ++ "'"
  | array items => "[" ++ ", ".intercalate (displayAll items) ++ "]"

def displayAll : List Value → List String
  | [] => []
  | v :: rest => v.display :: displayAll rest
end

end Value

end RowQuery
