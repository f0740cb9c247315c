import Mathlib.Data.List.Nodup
import RowQuery.OrderedMap
/-!
# Maps set entry by entry

A new key goes to the end of a map, so entries under new, distinct keys are
listed just as they were set (`toList_insertAll`), and none of them meets a key
that is already there (`not_mem_keys_ofList`). Changing the values of a map
moves no entry (`mapValues_insertAll`). Where keys repeat, the first entry of a key
gives its place and the last one its value (`toList_ofList_eq`).
-/

namespace RowQuery

/-- A change that keeps each item of a list keeps the list. -/
theorem map_eq_self_iff {α : Type} {f : α → α} {l : List α} : l.map f = l ↔ ∀ x ∈ l, f x = x := by
  simpa using List.map_inj_left (f := f) (g := id) (l := l)

/-- Where a later item passes too, an item has no say in which is the last to pass. -/
theorem getLast?_filter_cover {β : Type} {p : β → Bool} {before after : List β} {x : β} (h : p x → ∃ y ∈ after, p y) :
    ((before ++ x :: after).filter p).getLast? = ((before ++ after).filter p).getLast? := by
  by_cases hx : p x
  · obtain ⟨y, hy, hpy⟩ := h hx
    have hne : after.filter p ≠ [] := List.ne_nil_of_mem (List.mem_filter.2 ⟨hy, hpy⟩)
    rw [List.filter_append, List.filter_append, List.getLast?_append, List.getLast?_append, List.filter_cons_of_pos hx,
      List.getLast?_cons, List.getLast?_eq_some_getLast hne]
    rfl
  · rw [List.filter_append, List.filter_append, List.filter_cons_of_neg hx]

namespace OrderedMap

variable {α β : Type}

/-! ## New keys -/

theorem put_of_not_mem {k : String} {l : List (String × α)} (v : α) (h : k ∉ l.map (·.1)) :
    put k v l = l ++ [(k, v)] := by
  induction l with
  | nil => rfl
  | cons e rest ih =>
    obtain ⟨k', v'⟩ := e
    simp only [List.map_cons, List.mem_cons, not_or] at h
    simp only [put, if_neg (Ne.symm h.1), ih h.2, List.cons_append]

@[simp] theorem toList_empty : (empty : OrderedMap α).toList = [] := rfl

theorem keys_eq (m : OrderedMap α) : m.keys = m.toList.map (·.1) := rfl

theorem toList_insert {m : OrderedMap α} {k : String} (v : α) (h : k ∉ m.keys) :
    (m.insert k v).toList = m.toList ++ [(k, v)] := put_of_not_mem v h

@[simp] theorem insertAll_nil (m : OrderedMap α) : m.insertAll [] = m := rfl

@[simp] theorem insertAll_cons (m : OrderedMap α) (e : String × α) (l : List (String × α)) :
    m.insertAll (e :: l) = (m.insert e.1 e.2).insertAll l := rfl

theorem insertAll_append (m : OrderedMap α) (l l' : List (String × α)) :
    m.insertAll (l ++ l') = (m.insertAll l).insertAll l' := List.foldl_append

/-- Entries under new and distinct keys are listed as they were set. -/
theorem toList_insertAll (m : OrderedMap α) (l : List (String × α)) (h : (m.keys ++ l.map (·.1)).Nodup) :
    (m.insertAll l).toList = m.toList ++ l := by
  induction l generalizing m with
  | nil => simp
  | cons e l ih =>
    have hk : e.1 ∉ m.keys := fun hk => by
      rw [List.nodup_append] at h
      exact h.2.2 _ hk _ (by simp) rfl
    have he := toList_insert e.2 hk
    rw [insertAll_cons, ih, he, List.append_assoc]
    · rfl
    · rw [keys_insert, if_neg hk, List.append_assoc]
      exact h

theorem toList_ofList {l : List (String × α)} (h : (l.map (·.1)).Nodup) : (ofList l).toList = l := by
  rw [ofList, toList_insertAll empty l h, toList_empty, List.nil_append]

theorem keys_ofList {l : List (String × α)} (h : (l.map (·.1)).Nodup) : (ofList l).keys = l.map (·.1) := by
  rw [keys_eq, toList_ofList h]

@[simp] theorem ofList_toList (m : OrderedMap α) : ofList m.toList = m := ext (toList_ofList m.nodup)

/-- Where a list of entries has distinct keys, no entry meets a key set before it. -/
theorem not_mem_keys_ofList {before after : List (String × α)} {e : String × α}
    (h : ((before ++ e :: after).map (·.1)).Nodup) : e.1 ∉ (ofList before).keys := by
  rw [List.map_append, List.nodup_append] at h
  rw [keys_ofList h.1]
  exact fun hm => h.2.2 _ hm _ (by simp) rfl

/-! ## Entries that were set -/

theorem mem_put {k : String} {v : α} {l : List (String × α)} {e : String × α} (h : e ∈ put k v l) :
    e = (k, v) ∨ e ∈ l := by
  induction l with
  | nil => exact .inl (List.mem_singleton.1 h)
  | cons e' rest ih =>
    obtain ⟨k', v'⟩ := e'
    rw [put] at h
    split at h
    · subst k'
      rcases List.mem_cons.1 h with h | h
      · exact .inl h
      · exact .inr (List.mem_cons_of_mem _ h)
    · rcases List.mem_cons.1 h with rfl | h
      · exact .inr (by simp)
      · exact (ih h).imp_right (List.mem_cons_of_mem _)

theorem mem_insertAll {m : OrderedMap α} {l : List (String × α)} {e : String × α}
    (h : e ∈ (m.insertAll l).toList) : e ∈ m.toList ∨ e ∈ l := by
  induction l generalizing m with
  | nil => exact .inl h
  | cons e' rest ih =>
    rcases ih h with h | h
    · rcases mem_put h with rfl | h
      · exact .inr (by simp)
      · exact .inl h
    · exact .inr (List.mem_cons_of_mem _ h)

/-- An entry of the map was in the list it was made from. -/
theorem mem_of_mem_ofList {l : List (String × α)} {e : String × α} (h : e ∈ (ofList l).toList) : e ∈ l :=
  (mem_insertAll h).resolve_left (by simp)

/-! ## Places -/

theorem getElem?_put {l : List (String × α)} {i : Nat} {e : String × α} (k : String) (v : α) (h : l[i]? = some e) :
    (put k v l)[i]? = some e ∨ e.1 = k ∧ (put k v l)[i]? = some (e.1, v) := by
  induction l generalizing i with
  | nil => simp at h
  | cons e' rest ih =>
    obtain ⟨k', v'⟩ := e'
    by_cases hk : k' = k
    · -- The entry under the key is the one that is set; those behind it stay.
      cases i with
      | zero =>
        obtain rfl := Option.some.inj h
        exact .inr ⟨hk, by simp [put, hk]⟩
      | succ i => exact .inl (by simpa [put, hk] using h)
    · cases i with
      | zero => exact .inl (by simpa [put, hk] using h)
      | succ i => simpa [put, hk] using ih (i := i) h

/-- An entry that is there keeps its place, and its value unless its key is set. -/
theorem getElem?_insertAll {m : OrderedMap α} {i : Nat} {e : String × α} (l : List (String × α))
    (h : m.toList[i]? = some e) : ∃ v, (m.insertAll l).toList[i]? = some (e.1, v) ∧ (v = e.2 ∨ (e.1, v) ∈ l) := by
  induction l generalizing m e with
  | nil => exact ⟨e.2, h, .inl rfl⟩
  | cons e' rest ih =>
    rcases getElem?_put e'.1 e'.2 h with h | ⟨hk, h⟩
    · obtain ⟨v, hv, hset⟩ := ih (m := m.insert e'.1 e'.2) h
      exact ⟨v, hv, hset.imp_right (List.mem_cons_of_mem e')⟩
    · obtain ⟨v, hv, hset⟩ := ih (m := m.insert e'.1 e'.2) h
      refine ⟨v, hv, .inr ?_⟩
      rcases hset with rfl | hset
      · simp [hk]
      · exact List.mem_cons_of_mem e' hset

/-! ## Look-up -/

theorem lookup_eq_some_iff {k : String} {v : α} {l : List (String × α)} (h : (l.map (·.1)).Nodup) :
    lookup k l = some v ↔ (k, v) ∈ l := by
  induction l with
  | nil => simp [lookup]
  | cons e rest ih =>
    obtain ⟨k', v'⟩ := e
    rw [List.map_cons, List.nodup_cons] at h
    by_cases hk : k' = k
    · subst hk
      have hv : (k', v) ∉ rest := fun hm => h.1 (List.mem_map_of_mem (f := (·.1)) hm)
      simp [lookup, hv, eq_comm]
    · have hk' : ¬ k = k' := fun e => hk e.symm
      simp [lookup, hk, hk', ih h.2]

theorem get?_eq_some_iff {m : OrderedMap α} {k : String} {v : α} :
    m.get? k = some v ↔ (k, v) ∈ m.toList := lookup_eq_some_iff m.nodup

/-! ## Other values under the same keys -/

/-- The map with each value changed. -/
def mapValues (f : α → β) (m : OrderedMap α) : OrderedMap β :=
  ⟨m.entries.map fun e => (e.1, f e.2), by simpa [Function.comp_def] using m.nodup⟩

@[simp] theorem keys_mapValues (f : α → β) (m : OrderedMap α) : (m.mapValues f).keys = m.keys := by
  simp [keys, mapValues, Function.comp_def]

@[simp] theorem size_mapValues (f : α → β) (m : OrderedMap α) : (m.mapValues f).size = m.size := by
  simp [size, mapValues]

theorem toList_mapValues (f : α → β) (m : OrderedMap α) :
    (m.mapValues f).toList = m.toList.map fun e => (e.1, f e.2) := rfl

theorem mapValues_eq_self_iff (f : α → α) (m : OrderedMap α) :
    m.mapValues f = m ↔ ∀ e ∈ m.toList, f e.2 = e.2 := by
  have h : m.mapValues f = m ↔ (m.mapValues f).toList = m.toList := ⟨fun h => by rw [h], ext⟩
  rw [h, toList_mapValues, map_eq_self_iff]
  simp [Prod.ext_iff]

theorem put_map (f : α → β) (k : String) (v : α) (l : List (String × α)) :
    put k (f v) (l.map fun e => (e.1, f e.2)) = (put k v l).map fun e => (e.1, f e.2) := by
  induction l with
  | nil => rfl
  | cons e rest ih => by_cases h : e.1 = k <;> simp [put, h, ih]

theorem mapValues_insertAll (f : α → β) (m : OrderedMap α) (l : List (String × α)) :
    (m.insertAll l).mapValues f = (m.mapValues f).insertAll (l.map fun e => (e.1, f e.2)) := by
  induction l generalizing m with
  | nil => rfl
  | cons e l ih =>
    have he : (m.insert e.1 e.2).mapValues f = (m.mapValues f).insert e.1 (f e.2) :=
      ext (put_map f e.1 e.2 m.entries).symm
    rw [insertAll_cons, ih, he]
    rfl

theorem mapValues_ofList (f : α → β) (l : List (String × α)) :
    (ofList l).mapValues f = ofList (l.map fun e => (e.1, f e.2)) := mapValues_insertAll f empty l

/-! ## Keys set again -/

/-- Keys that are there already are passed over, and of the others the first of each kind counts. -/
theorem keys_insertAll (m : OrderedMap α) (l : List (String × α)) :
    (m.insertAll l).keys = m.keys ++ ((l.map (·.1)).filter (· ∉ m.keys)).eraseDups := by
  induction l generalizing m with
  | nil => simp
  | cons e l ih =>
    rw [insertAll_cons, ih, keys_insert, List.map_cons]
    by_cases he : e.1 ∈ m.keys
    · simp [he]
    · rw [if_neg he, List.filter_cons_of_pos (by simpa using he), List.eraseDups_cons, List.filter_filter,
        List.append_assoc, List.singleton_append]
      refine congrArg (fun ks : List String => m.keys ++ e.1 :: ks.eraseDups) (List.filter_congr fun k _ => ?_)
      rw [Bool.eq_iff_iff]
      simp [and_comm]

/-- Every distinct key, in the order in which they first occur. -/
theorem keys_ofList_eq_eraseDups (l : List (String × α)) : (ofList l).keys = (l.map (·.1)).eraseDups := by
  rw [ofList, keys_insertAll]
  simp [keys, empty]

/-- The last value set under a key stays. -/
theorem get?_insertAll (m : OrderedMap α) (l : List (String × α)) (k : String) :
    (m.insertAll l).get? k = ((l.filter fun e => e.1 = k).getLast?.map (·.2)).or (m.get? k) := by
  induction l generalizing m with
  | nil => simp
  | cons e l ih =>
    rw [insertAll_cons, ih, get?_insert]
    by_cases he : e.1 = k
    · rw [List.filter_cons_of_pos (by simpa using he), List.getLast?_cons]
      cases (l.filter fun e => e.1 = k).getLast? <;> simp [he]
    · rw [List.filter_cons_of_neg (by simpa using he), if_neg he]

theorem get?_ofList (l : List (String × α)) (k : String) :
    (ofList l).get? k = (l.filter fun e => e.1 = k).getLast?.map (·.2) := by
  rw [ofList, get?_insertAll]
  simp [get?, empty, lookup]

/-- A map is its keys and what stands under each. -/
theorem toList_eq_filterMap (m : OrderedMap α) :
    m.toList = m.keys.filterMap fun k => (m.get? k).map fun v => (k, v) := by
  rw [keys_eq, List.filterMap_map]
  have hsome : ∀ e ∈ m.toList, ((fun k => (m.get? k).map fun v => (k, v)) ∘ (·.1)) e = some e := by
    intro e he
    simp [get?_eq_some_iff.2 he]
  rw [List.filterMap_congr hsome, List.filterMap_some]

/-- The last entry of each distinct key, in the order in which the keys first occur. -/
theorem toList_ofList_eq (l : List (String × α)) :
    (ofList l).toList = (l.map (·.1)).eraseDups.filterMap fun k => (l.filter fun e => e.1 = k).getLast? := by
  rw [toList_eq_filterMap, keys_ofList_eq_eraseDups]
  refine List.filterMap_congr fun k _ => ?_
  rw [get?_ofList, Option.map_map]
  cases h : (l.filter fun e => e.1 = k).getLast? with
  | none => rfl
  | some e =>
    have he : e.1 = k := by simpa using (List.mem_filter.1 (List.mem_of_getLast? h)).2
    simp [← he]

/-- Maps with the same keys in the same order and the same values under them are the same. -/
theorem ext_get? {m n : OrderedMap α} (hk : m.keys = n.keys) (hv : ∀ k, m.get? k = n.get? k) : m = n := by
  have hlist : m.toList = n.toList := by
    rw [m.toList_eq_filterMap, n.toList_eq_filterMap, hk]
    simp only [hv]
  exact ext hlist

/-- A value that is set again later does not matter. -/
theorem ofList_set_again {before after : List (String × α)} {k : String} (h : k ∈ after.map (·.1)) (v v' : α) :
    ofList (before ++ (k, v) :: after) = ofList (before ++ (k, v') :: after) := by
  have hlater (k' : String) (w : α) : decide (k = k') → ∃ e ∈ after, decide (e.1 = k') := by
    intro hk
    obtain ⟨e, he, hek⟩ := List.mem_map.1 h
    exact ⟨e, he, by simpa [hek] using hk⟩
  refine ext_get? ?_ fun k' => ?_
  · simp only [keys_ofList_eq_eraseDups, List.map_append, List.map_cons]
  · rw [get?_ofList, get?_ofList, getLast?_filter_cover (hlater k' v), getLast?_filter_cover (hlater k' v')]

end OrderedMap

end RowQuery
