import RowQuery.Proofs.OperatorText
import RowQuery.Proofs.SavedValue
import RowQuery.Saved.Filter
/-!
# Clauses and sort keys read back from their trees

A clause's tree is always read, but the shape it is saved in cannot tell every
clause from every other: a condition under a grouping operator looks like a
group, and an empty stem like none. `Condition.Faithful` is what is left, and
what is read from a tree is always of that kind (`Clause.faithful_of_ofTree`).
-/

namespace RowQuery

theorem Operator.parse_text_of_ofTree {t : Tree} {o : Operator} (h : ofTree t = .ok o) :
    parse o.text = o := by
  obtain ⟨s, -, rfl⟩ := Tree.map_eq_ok_iff.1 h
  exact parse_text_parse s

/-! ## Conditions -/

/-- A condition whose saved shape stands for no other clause. -/
structure Condition.Faithful (c : Condition) : Prop where
  ungrouped : c.operator.isGrouping = false
  spelled : ∀ s, c.operator = .custom s → Operator.parse s = .custom s
  /-- A stem is empty only under an empty column name. -/
  stem : c.parameter = "" → c.column = ""
  finite : c.value.isFinite

namespace Clause

def Faithful : Clause → Prop
  | condition c => c.Faithful
  | group _ _ => True

/-- The clause that a clause's tree is read as. -/
def saved : Clause → Clause
  | condition c =>
    Parts.clause ⟨some c.column, some (.parse c.operator.text), some c.value.saved, some c.connector,
      some (some c.parameter)⟩
  | group g k => group g k

/-- A grouping operator makes a token of its own text. -/
theorem new_of_isGrouping {o : Operator} (h : o.isGrouping) (column : String) (value : Value)
    (k : Connector) : ∃ g, new column value o k = group g k ∧ g.token = o.text := by
  cases o with
  | openGroup => exact ⟨.opening, rfl, rfl⟩
  | closeGroup => exact ⟨.closing, rfl, rfl⟩
  | _ => cases h

theorem new_of_not_isGrouping {o : Operator} (h : o.isGrouping = false) (column : String)
    (value : Value) (k : Connector) : new column value o k = condition ⟨column, o, value, k, column⟩ := by
  cases o with
  | openGroup | closeGroup => cases h
  | _ => rfl

/-- What the clause of some parts can be: a group, or a condition whose stem is
empty only under an empty column name. -/
theorem Parts.clause_cases (p : Parts) :
    (∃ g k, p.clause = group g k) ∨
      ∃ c, p.clause = condition c ∧ c.operator = p.operator.getD .eq ∧ c.operator.isGrouping = false ∧
        c.value = p.value.getD .null ∧ (c.parameter = "" → c.column = "") := by
  unfold Parts.clause
  dsimp only
  cases ho : (p.operator.getD .eq).isGrouping with
  | true =>
    obtain ⟨g, hg, -⟩ := new_of_isGrouping ho (p.column.getD "") (p.value.getD .null) (p.connector.getD .and)
    left
    rw [hg]
    split
    · split <;> exact ⟨_, _, rfl⟩
    · exact ⟨_, _, rfl⟩
  | false =>
    rw [new_of_not_isGrouping ho]
    right
    split
    · split
      · exact ⟨_, rfl, rfl, ho, rfl, id⟩
      · rename_i hs
        exact ⟨_, rfl, rfl, ho, rfl, fun h => absurd h hs⟩
    · exact ⟨_, rfl, rfl, ho, rfl, id⟩

/-- Parts that came from a tree: the operator was read from text, and no number
in the value is without a saved form. -/
structure Parts.Loaded (p : Parts) : Prop where
  operator : ∀ o, p.operator = some o → Operator.parse o.text = o
  value : ∀ v, p.value = some v → v.isFinite

theorem Parts.Loaded.faithful {p : Parts} (h : p.Loaded) : p.clause.Faithful := by
  rcases p.clause_cases with ⟨g, k, hg⟩ | ⟨c, hc, ho, hng, hv, hs⟩
  · rw [hg]
    trivial
  · have hparse : Operator.parse c.operator.text = c.operator := by
      rw [ho]
      cases hp : p.operator with
      | none => exact Operator.parse_text_of_ne_custom (by simp)
      | some o => exact h.operator o hp
    have hfinite : c.value.isFinite := by
      rw [hv]
      cases hp : p.value with
      | none => rfl
      | some v => exact h.value v hp
    rw [hc]
    exact ⟨hng, (Operator.parse_text_eq_self_iff _).1 hparse, hs, hfinite⟩

/-! ## Round trips -/

theorem faithful_saved (x : Clause) : x.saved.Faithful := by
  cases x with
  | condition c =>
    have h : Parts.Loaded ⟨some c.column, some (.parse c.operator.text), some c.value.saved,
        some c.connector, some (some c.parameter)⟩ := by
      constructor
      · rintro o ⟨⟩
        exact Operator.parse_text_parse _
      · rintro v ⟨⟩
        exact c.value.isFinite_saved
    exact h.faithful
  | group _ _ => trivial

/-- A clause survives being saved exactly when it is faithful. -/
theorem saved_eq_self_iff (x : Clause) : x.saved = x ↔ x.Faithful := by
  constructor
  · intro h
    rw [← h]
    exact x.faithful_saved
  · cases x with
    | group _ _ => exact fun _ => rfl
    | condition c =>
      intro h
      have hparse : Operator.parse c.operator.text = c.operator :=
        (Operator.parse_text_eq_self_iff _).2 h.spelled
      have hvalue : c.value.saved = c.value := c.value.saved_eq_self_iff.2 h.finite
      simp only [saved, Parts.clause, hparse, hvalue, Option.getD_some, new_of_not_isGrouping h.ungrouped]
      split
      · rename_i hs
        have hc : c.column = c.parameter := (h.stem hs).trans hs.symm
        exact congrArg (fun p => condition { c with parameter := p }) hc
      · rfl

/-- A token's text makes the group again. -/
theorem Parts.clause_token (g : Grouping) (k : Connector) :
    Parts.clause ⟨some "", some (.parse g.token), some .null, some k, some none⟩ = group g k := by
  cases g with
  | opening =>
    have ho : Operator.parse "(" = .openGroup := Operator.parse_text_of_ne_custom (o := .openGroup) (by simp)
    simp [Parts.clause, Grouping.token, ho, new]
  | closing =>
    have ho : Operator.parse ")" = .closeGroup := Operator.parse_text_of_ne_custom (o := .closeGroup) (by simp)
    simp [Parts.clause, Grouping.token, ho, new]

/-- The tree of any clause is read. -/
theorem ofTree_toTree (f : Format) (x : Clause) : ofTree f x.toTree = .ok x.saved := by
  cases x with
  | condition c =>
    simp [ofTree, toTree, Tree.asStructure, Tree.members?, Tree.foldMembers_cons, Tree.foldMembers,
      Parts.member, Operator.toTree, Operator.ofTree, Connector.toTree, Connector.ofTree,
      Tree.ne_unnamed_of_isSound c.value.isSound_toTree, Value.ofTree_toTree, saved]
  | group g k =>
    have hnull : Value.ofTree .null = .ok .null := Value.ofTree_toTree .null
    simp [ofTree, toTree, Tree.asStructure, Tree.members?, Tree.foldMembers, Parts.member, Operator.ofTree,
      Connector.toTree, Connector.ofTree, hnull, Parts.clause_token, saved]

/-! ## Clauses read from any tree -/

theorem Parts.loaded_member {p q : Parts} {k : String} {t : Tree} (ht : t.numbersFit) (hp : p.Loaded)
    (h : p.member k t = .ok q) : q.Loaded := by
  unfold Parts.member at h
  split at h
  case h_2 =>
    obtain ⟨operator, ho, h⟩ := Tree.bind_eq_ok_iff.1 h
    obtain ⟨-, o, hr, rfl⟩ := Tree.once_eq_ok_iff.1 ho
    cases h
    refine ⟨?_, hp.value⟩
    rintro _ ⟨⟩
    exact Operator.parse_text_of_ofTree hr
  case h_3 =>
    obtain ⟨value, hv, h⟩ := Tree.bind_eq_ok_iff.1 h
    obtain ⟨-, v, hr, rfl⟩ := Tree.once_eq_ok_iff.1 hv
    cases h
    refine ⟨hp.operator, ?_⟩
    rintro _ ⟨⟩
    exact Value.isFinite_of_ofTree ht hr
  -- The other members leave the operator and the value alone.
  all_goals
    obtain ⟨_, -, h⟩ := Tree.bind_eq_ok_iff.1 h
    cases h
    exact ⟨hp.operator, hp.value⟩

theorem Parts.loaded_ofItems {f : Format} {items : List Tree} {p : Parts}
    (ht : ∀ t ∈ items, t.numbersFit) (h : Parts.ofItems f items = .ok p) : p.Loaded := by
  obtain ⟨⟨column, items₁⟩, hcolumn, h⟩ := Tree.bind_eq_ok_iff.1 h
  obtain ⟨⟨operator, items₂⟩, hoperator, h⟩ := Tree.bind_eq_ok_iff.1 h
  obtain ⟨⟨value, items₃⟩, hvalue, h⟩ := Tree.bind_eq_ok_iff.1 h
  obtain ⟨⟨connector, items₄⟩, hconnector, h⟩ := Tree.bind_eq_ok_iff.1 h
  obtain ⟨⟨parameter, items₅⟩, hparameter, h⟩ := Tree.bind_eq_ok_iff.1 h
  obtain ⟨_, -, h⟩ := Tree.bind_eq_ok_iff.1 h
  cases h
  constructor
  · intro o ho
    obtain ⟨t, -, hr⟩ := (Tree.of_nextField hoperator).1 o ho
    exact Operator.parse_text_of_ofTree hr
  · intro v hv
    obtain ⟨t, hmem, hr⟩ := (Tree.of_nextField hvalue).1 v hv
    have hitems := (Tree.of_nextField hcolumn).2 t ((Tree.of_nextField hoperator).2 t hmem)
    exact Value.isFinite_of_ofTree (ht t hitems) hr

/-- What is read from a tree survives being saved. -/
theorem faithful_of_ofTree {f : Format} {t : Tree} {x : Clause} (ht : t.numbersFit)
    (h : ofTree f t = .ok x) : x.Faithful := by
  obtain ⟨p, hp, h⟩ := Tree.bind_eq_ok_iff.1 h
  cases h
  refine Parts.Loaded.faithful ?_
  unfold Tree.asStructure at hp
  split at hp
  · rename_i members hm
    exact Tree.foldMembers_induction Parts.Loaded hp ⟨by simp, by simp⟩ fun a k u b hu ha hb =>
      Parts.loaded_member (Tree.numbersFit_of_members? ht hm _ hu) ha hb
  · split at hp
    · exact Parts.loaded_ofItems ((Tree.numbersFit_array _).1 ht) hp
    · cases hp

end Clause

/-! ## Sort keys -/

theorem Direction.ofTree_toTree (f : Format) (d : Direction) : ofTree f d.toTree = .ok d := by
  rw [ofTree, toTree, Tree.asVariant_string]
  cases d <;> rfl

theorem SortKey.ofTree_toTree (f : Format) (s : SortKey) : ofTree f s.toTree = .ok s := by
  have hd : Direction.ofTree f (.string s.direction.name) = .ok s.direction :=
    Direction.ofTree_toTree f s.direction
  simp [ofTree, toTree, Tree.asStructure, Tree.members?, ofMembers, Tree.foldMembers, member,
    Direction.toTree, hd]

end RowQuery
