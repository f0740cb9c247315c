import RowQuery.OrderedMap
import RowQuery.Tree.Decode
import RowQuery.Value
/-!
# Saved values

A value is saved as the tree that looks like it, without a mark of its kind. A
tree is a value when no table and no date occurs anywhere in it. Numbers without
a saved form of their own are saved as nothing.
-/

namespace RowQuery

namespace Value

mutual
/-- The tree of a value. -/
def toTree : Value → Tree
  | null => .null
  | bool b => .bool b
  | int n => .int n.toInt
  | float x => if x.isFinite then .float x else .null
  | string s => .string s
  | array items => .array (toTrees items)

def toTrees : List Value → List Tree
  | [] => []
  | v :: rest => v.toTree :: toTrees rest
end

/-- An integer that fits 64 bits stays one; any other becomes the nearest
floating-point number. -/
def ofInteger (n : Int) : Value :=
  if Int64.minValue.toInt ≤ n ∧ n ≤ Int64.maxValue.toInt then int (.ofInt n) else float (.ofInt n)

mutual
/-- The value a tree looks like. -/
def ofTree? : Tree → Option Value
  | .null => some null
  | .bool b => some (bool b)
  | .int n => some (ofInteger n)
  | .float x => some (float x)
  | .string s => some (string s)
  | .array items => (ofTrees? items).map array
  | .date _ | .object _ | .unreadable _ | .unnamed _ _ => none

def ofTrees? : List Tree → Option (List Value)
  | [] => some []
  | t :: rest =>
    match ofTree? t, ofTrees? rest with
    | some v, some vs => some (v :: vs)
    | _, _ => none
end

/-- Reads a value. The whole tree is read before it is looked at. -/
def ofTree (t : Tree) : Tree.Read Value := do
  t.keep
  match ofTree? t with
  | some v => .ok v
  | none => .error .noValue

end Value

namespace Saved

/-- The tree of a map of values. -/
def valuesToTree (m : OrderedMap Value) : Tree :=
  .object (m.toList.map fun (k, v) => (k, v.toTree))

/-- Reads a map of values. A key that repeats keeps its place and takes the last value. -/
def valuesOfTree (t : Tree) : Tree.Read (OrderedMap Value) :=
  (t.asMembers Value.ofTree).map .ofList

end Saved

end RowQuery
