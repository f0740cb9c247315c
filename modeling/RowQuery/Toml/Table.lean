import RowQuery.Tree
/-!
# Tables of TOML

A table comes about in three ways: by its own header, as a part of the path of
another header, or as a part of a dotted key. Only the first is final; how a
table came about decides what may still be added to it.
-/

namespace RowQuery.Toml

/-- What a key holds while a document is put together. -/
inductive Node where
  | value (t : Tree)
  /-- `implied`: no header of its own so far; `dotted`: made by a dotted key. -/
  | table (implied dotted : Bool) (entries : List (String × Node))
  /-- The tables of a repeated header. -/
  | tables (items : List (List (String × Node)))

abbrev Entries := List (String × Node)

namespace Entries

def find? (k : String) (es : Entries) : Option Node := es.lookup k

def remove (k : String) (es : Entries) : Entries := es.filter fun e => e.1 ≠ k

def replace (k : String) (n : Node) (es : Entries) : Entries :=
  es.map fun e => if e.1 = k then (k, n) else e

/-- Changes the table that a path leads to. Tables missing on the way are made.
A dotted key must not lead through a table with a header of its own; `f` is told
whether the table it changes was made by a dotted key. -/
def update {β : Type} (byKey : Bool) (f : Bool → Entries → Option (Entries × β)) :
    List String → Bool → Entries → Option (Entries × β)
  | [], dotted, es => f dotted es
  | k :: ks, _, es =>
    match es.find? k with
    | none => do
      let (sub, x) ← update byKey f ks byKey []
      some (es ++ [(k, .table true byKey sub)], x)
    | some (.value _) => none
    | some (.table implied dotted sub) =>
      if byKey && !implied then none
      else do
        let (sub, x) ← update byKey f ks dotted sub
        some (es.replace k (.table implied dotted sub), x)
    | some (.tables items) => do
      let last ← items.getLast?
      let (last, x) ← update byKey f ks false last
      some (es.replace k (.tables (items.dropLast ++ [last])), x)

/-- The table with one more key. The key must be new, and a path must end in a
table that is made by dotted keys alone. -/
def addKey (path : List String) (key : String) (t : Tree) (es : Entries) : Option Entries :=
  (update true (fun dotted es =>
    if dotted == path.isEmpty || (es.find? key).isSome then none
    else some (es ++ [(key, .value t)], ())) path false es).map (·.1)

end Entries

mutual
/-- The tree of a finished node. -/
def Node.tree : Node → Tree
  | .value t => t
  | .table _ _ entries => .object (entryTrees entries)
  | .tables items => .array (tableTrees items)

def entryTrees : List (String × Node) → List (String × Tree)
  | [] => []
  | (k, n) :: rest => (k, n.tree) :: entryTrees rest

def tableTrees : List (List (String × Node)) → List Tree
  | [] => []
  | es :: rest => .object (entryTrees es) :: tableTrees rest
end

/-- A document so far: the tables that are finished, and the one that keys are
being added to, with its path. -/
structure Draft where
  root : Entries := []
  current : Entries := []
  path : List String := []
  repeated : Bool := false

namespace Draft

/-- Puts the current table in its place. -/
def finish (d : Draft) : Option Entries :=
  match d.path.getLast? with
  | none => some d.current
  | some key =>
    (Entries.update false (fun _ es =>
      if d.repeated then
        match es.find? key with
        | none => some (es ++ [(key, .tables [d.current])], ())
        | some (.tables items) => some (es.replace key (.tables (items ++ [d.current])), ())
        | some _ => none
      else
        match es.find? key with
        | none => some (es ++ [(key, .table false false d.current)], ())
        | some _ => none) d.path.dropLast false d.root).map (·.1)

/-- Starts the table of a header. A table that was only implied so far is taken
up again. -/
def startTable (path : List String) (d : Draft) : Option Draft := do
  let root ← d.finish
  let key ← path.getLast?
  let (root, current) ← Entries.update false (fun _ es =>
    match es.find? key with
    | none => some (es, [])
    | some (.table true false sub) => some (es.remove key, sub)
    | some _ => none) path.dropLast false root
  some ⟨root, current, path, false⟩

/-- Starts one more table of a repeated header. -/
def startRepeated (path : List String) (d : Draft) : Option Draft := do
  let root ← d.finish
  let key ← path.getLast?
  let (root, _) ← Entries.update false (fun _ es =>
    match es.find? key with
    | none => some (es ++ [(key, .tables [])], ())
    | some (.tables _) => some (es, ())
    | some _ => none) path.dropLast false root
  some ⟨root, [], path, true⟩

/-- Adds a key to the current table. -/
def addKey (path : List String) (key : String) (t : Tree) (d : Draft) : Option Draft := do
  let current ← Entries.addKey path key t d.current
  some { d with current := current }

end Draft

end RowQuery.Toml
