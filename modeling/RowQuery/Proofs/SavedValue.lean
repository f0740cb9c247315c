import RowQuery.Proofs.Decode
import RowQuery.Proofs.JsonNumber
import RowQuery.Proofs.OrderedMap
import RowQuery.Saved.Value
/-!
# Values read back from their trees

The tree of a value is read as the value itself, except that a number without a
saved form is read as nothing (`Value.ofTree_toTree`). A value is its own
reading exactly when each of its numbers is finite (`Value.saved_eq_self_iff`),
which holds of every value that is read from a tree (`Value.isFinite_of_ofTree`).
-/

namespace RowQuery

namespace Value

mutual
/-- Every floating-point number in the value is finite, however deep it lies. -/
def isFinite : Value → Bool
  | float x => x.isFinite
  | array items => areFinite items
  | null | bool _ | int _ | string _ => true

def areFinite : List Value → Bool
  | [] => true
  | v :: rest => v.isFinite && areFinite rest
end

mutual
/-- The value that a value's tree is read as. -/
def saved : Value → Value
  | null => null
  | bool b => bool b
  | int n => int n
  | float x => if x.isFinite then float x else null
  | string s => string s
  | array items => array (allSaved items)

def allSaved : List Value → List Value
  | [] => []
  | v :: rest => v.saved :: allSaved rest
end

theorem ofInteger_toInt (n : Int64) : ofInteger n.toInt = int n := by
  rw [ofInteger, if_pos ⟨n.minValue_le_toInt, n.toInt_le⟩, Int64.ofInt_toInt]

mutual
theorem ofTree?_toTree (v : Value) : ofTree? v.toTree = some v.saved := by
  match v with
  | null | bool _ | string _ => rfl
  | int n => rw [toTree, ofTree?, ofInteger_toInt, saved]
  | float x => by_cases h : x.isFinite <;> simp [toTree, saved, ofTree?, h]
  | array items => rw [toTree, ofTree?, ofTrees?_toTrees items, saved, Option.map_some]

theorem ofTrees?_toTrees (vs : List Value) : ofTrees? (toTrees vs) = some (allSaved vs) := by
  match vs with
  | [] => rfl
  | v :: rest => simp only [toTrees, ofTrees?, ofTree?_toTree v, ofTrees?_toTrees rest, allSaved]
end

mutual
theorem isSound_toTree (v : Value) : v.toTree.isSound := by
  match v with
  | null | bool _ | int _ | string _ => rfl
  | float x => by_cases h : x.isFinite <;> simp [toTree, Tree.isSound, h]
  | array items => exact areSound_toTrees items

theorem areSound_toTrees (vs : List Value) : Tree.areSound (toTrees vs) := by
  match vs with
  | [] => rfl
  | v :: rest => simp [toTrees, Tree.areSound, isSound_toTree v, areSound_toTrees rest]
end

/-- The tree of any value is read, whatever numbers are in it. -/
theorem ofTree_toTree (v : Value) : ofTree v.toTree = .ok v.saved := by
  rw [ofTree, Tree.keep, if_pos v.isSound_toTree, Tree.ok_bind, ofTree?_toTree]

mutual
theorem saved_eq_self_iff (v : Value) : v.saved = v ↔ v.isFinite := by
  match v with
  | null | bool _ | int _ | string _ => simp [saved, isFinite]
  | float x => by_cases h : x.isFinite <;> simp [saved, isFinite, h]
  | array items => rw [saved, isFinite, array.injEq, allSaved_eq_self_iff items]

theorem allSaved_eq_self_iff (vs : List Value) : allSaved vs = vs ↔ areFinite vs := by
  match vs with
  | [] => simp [allSaved, areFinite]
  | v :: rest =>
    simp [allSaved, areFinite, saved_eq_self_iff v, allSaved_eq_self_iff rest]
end

mutual
theorem isFinite_saved (v : Value) : v.saved.isFinite := by
  match v with
  | null | bool _ | int _ | string _ => rfl
  | float x => by_cases h : x.isFinite <;> simp [saved, isFinite, h]
  | array items => exact areFinite_allSaved items

theorem areFinite_allSaved (vs : List Value) : areFinite (allSaved vs) := by
  match vs with
  | [] => rfl
  | v :: rest => simp [allSaved, areFinite, isFinite_saved v, areFinite_allSaved rest]
end

mutual
theorem isFinite_of_ofTree? {t : Tree} {v : Value} (ht : t.numbersFit) (h : ofTree? t = some v) :
    v.isFinite := by
  match t with
  | .null | .bool _ | .string _ =>
    cases h
    rfl
  | .int n =>
    cases h
    simp only [Tree.numbersFit, Bool.and_eq_true, decide_eq_true_eq] at ht
    unfold ofInteger
    split
    · rfl
    · exact Binary64.isFinite_ofInt (by omega)
  | .float x =>
    cases h
    exact ht
  | .array items =>
    rw [ofTree?, Option.map_eq_some_iff] at h
    obtain ⟨vs, hvs, rfl⟩ := h
    exact areFinite_of_ofTrees? ht hvs
  | .date _ | .object _ | .unreadable _ | .unnamed _ _ => cases h

theorem areFinite_of_ofTrees? {ts : List Tree} {vs : List Value} (ht : Tree.allNumbersFit ts)
    (h : ofTrees? ts = some vs) : areFinite vs := by
  match ts with
  | [] =>
    cases h
    rfl
  | t :: rest =>
    rw [Tree.allNumbersFit, Bool.and_eq_true] at ht
    rw [ofTrees?] at h
    split at h
    · rename_i hv hvs
      cases h
      rw [areFinite, isFinite_of_ofTree? ht.1 hv, areFinite_of_ofTrees? ht.2 hvs, Bool.and_self]
    · cases h
end

theorem isFinite_of_ofTree {t : Tree} {v : Value} (ht : t.numbersFit) (h : ofTree t = .ok v) :
    v.isFinite := by
  obtain ⟨-, -, h⟩ := Tree.bind_eq_ok_iff.1 h
  split at h
  · cases h
    exact isFinite_of_ofTree? ht ‹_›
  · cases h

end Value

namespace Saved

/-! ## Records -/

/-- A record's tree is read as the record, each value as its own tree is. -/
theorem valuesOfTree_valuesToTree (m : OrderedMap Value) :
    valuesOfTree (valuesToTree m) = .ok (m.mapValues Value.saved) := by
  have hread : Tree.eachMember Value.ofTree (m.toList.map fun e => (e.1, e.2.toTree)) =
      .ok (m.toList.map fun e => (e.1, e.2.saved)) :=
    Tree.eachMember_map (fun e _ => e.2.isSound_toTree) fun e _ => e.2.ofTree_toTree
  calc
    valuesOfTree (valuesToTree m) =
        (Tree.eachMember Value.ofTree (m.toList.map fun e => (e.1, e.2.toTree))).map .ofList := rfl
    _ = .ok (.ofList (m.mapValues Value.saved).toList) := by rw [hread]; rfl
    _ = .ok (m.mapValues Value.saved) := by rw [OrderedMap.ofList_toList]

theorem mapValues_saved_eq_self_iff (m : OrderedMap Value) :
    m.mapValues Value.saved = m ↔ ∀ e ∈ m.toList, e.2.isFinite := by
  simp only [OrderedMap.mapValues_eq_self_iff, Value.saved_eq_self_iff]

theorem isFinite_of_valuesOfTree {t : Tree} {m : OrderedMap Value} (ht : t.numbersFit)
    (h : valuesOfTree t = .ok m) : ∀ e ∈ m.toList, e.2.isFinite := by
  obtain ⟨entries, hentries, rfl⟩ := Tree.map_eq_ok_iff.1 h
  unfold Tree.asMembers at hentries
  split at hentries
  · rename_i members hm
    intro e he
    obtain ⟨u, hu, hv⟩ := Tree.mem_of_eachMember hentries e (OrderedMap.mem_of_mem_ofList he)
    exact Value.isFinite_of_ofTree (Tree.numbersFit_of_members? ht hm _ hu) hv
  · cases hentries

end Saved

end RowQuery
