/-!
# Maps that keep their order

Records, schemas and bind maps list their entries in the order in which the
keys first appeared. A key set again keeps its place and takes the new value,
so each key occurs once (`nodup`).

`get?_insert` and `keys_insert` say what an insertion does; everything else
follows from those two.
-/

namespace RowQuery

/-- Entries under distinct keys, in the order in which the keys first appeared. -/
structure OrderedMap (α : Type) where
  entries : List (String × α)
  nodup : (entries.map (·.1)).Nodup
deriving Repr

namespace OrderedMap

variable {α β : Type}

theorem ext {m n : OrderedMap α} (h : m.entries = n.entries) : m = n := by
  cases m; cases n; simp_all

instance [DecidableEq α] : DecidableEq (OrderedMap α) := fun m n =>
  if h : m.entries = n.entries then .isTrue (ext h) else .isFalse fun e => h (by rw [e])

def empty : OrderedMap α := ⟨[], by simp⟩

instance : Inhabited (OrderedMap α) := ⟨empty⟩

def toList (m : OrderedMap α) : List (String × α) := m.entries

def keys (m : OrderedMap α) : List String := m.entries.map (·.1)

def size (m : OrderedMap α) : Nat := m.entries.length

def isEmpty (m : OrderedMap α) : Bool := m.entries.isEmpty

/-- The value under the key in a list of entries. -/
def lookup (k : String) : List (String × α) → Option α
  | [] => none
  | (k', v) :: rest => if k' = k then some v else lookup k rest

def get? (m : OrderedMap α) (k : String) : Option α := lookup k m.entries

/-- The entries with the key set: in place if it is there, else at the end. -/
def put (k : String) (v : α) : List (String × α) → List (String × α)
  | [] => [(k, v)]
  | (k', v') :: rest => if k' = k then (k', v) :: rest else (k', v') :: put k v rest

theorem keys_put (k : String) (v : α) (l : List (String × α)) :
    (put k v l).map (·.1) = if k ∈ l.map (·.1) then l.map (·.1) else l.map (·.1) ++ [k] := by
  induction l with
  | nil => simp [put]
  | cons e rest ih =>
    obtain ⟨k', v'⟩ := e
    by_cases h : k' = k
    · simp [put, h]
    · have h' : k ≠ k' := fun e => h e.symm
      by_cases hm : k ∈ rest.map (·.1) <;> simp_all [put]

theorem nodup_put (k : String) (v : α) (l : List (String × α)) (h : (l.map (·.1)).Nodup) :
    ((put k v l).map (·.1)).Nodup := by
  rw [keys_put]
  split
  · exact h
  · rename_i hk
    rw [List.nodup_append]
    refine ⟨h, by simp, ?_⟩
    intro a ha b hb
    simp only [List.mem_singleton] at hb
    subst hb
    exact fun e => hk (e ▸ ha)

theorem lookup_put (k k' : String) (v : α) (l : List (String × α)) :
    lookup k' (put k v l) = if k = k' then some v else lookup k' l := by
  induction l with
  | nil => simp [put, lookup]
  | cons e rest ih =>
    obtain ⟨k₀, v₀⟩ := e
    by_cases h : k₀ = k <;> by_cases hk : k₀ = k' <;> grind [put, lookup]

def insert (m : OrderedMap α) (k : String) (v : α) : OrderedMap α :=
  ⟨put k v m.entries, nodup_put k v m.entries m.nodup⟩

@[simp] theorem get?_insert (m : OrderedMap α) (k k' : String) (v : α) :
    (m.insert k v).get? k' = if k = k' then some v else m.get? k' :=
  lookup_put k k' v m.entries

theorem keys_insert (m : OrderedMap α) (k : String) (v : α) :
    (m.insert k v).keys = if k ∈ m.keys then m.keys else m.keys ++ [k] :=
  keys_put k v m.entries

/-- The map after setting each entry in turn. -/
def insertAll (m : OrderedMap α) (l : List (String × α)) : OrderedMap α :=
  l.foldl (fun m e => m.insert e.1 e.2) m

/-- The map of a list of entries: the first occurrence of a key gives its place,
the last one its value. -/
def ofList (l : List (String × α)) : OrderedMap α := empty.insertAll l

end OrderedMap

end RowQuery
