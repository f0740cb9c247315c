import RowQuery.Compile
import RowQuery.Descriptor.Edit
import RowQuery.Proofs.ChainAppend
import RowQuery.Proofs.SavedDescriptor
/-!
# Tokens of groups

A clause made of a grouping operator is a token: it is written bare, binds
nothing, and after an opening one the next clause takes no keyword. A clause that
is read from a file, or made of its parts, never hides such an operator in a
condition. A condition that is handed over as it stands may (`run_groups`):
it is then written and bound like a comparison.
-/

namespace RowQuery

namespace Clause

/-- A condition whose operator opens or closes a group. -/
def isDisguised : Clause → Bool
  | condition c => c.operator.isGrouping
  | group _ _ => false

theorem isDisguised_new (column : String) (value : Value) (o : Operator) (k : Connector) :
    (new column value o k).isDisguised = false := by
  cases ho : o.isGrouping with
  | true =>
    obtain ⟨g, hg, -⟩ := new_of_isGrouping ho column value k
    rw [hg, isDisguised]
  | false => rw [new_of_not_isGrouping ho, isDisguised, ho]

theorem isDisguised_of_ofTree {f : Format} {t : Tree} {x : Clause} (h : ofTree f t = .ok x) :
    x.isDisguised = false := by
  obtain ⟨p, -, h⟩ := Tree.bind_eq_ok_iff.1 h
  cases h
  rcases p.clause_cases with ⟨g, k, hg⟩ | ⟨c, hc, -, ho, -⟩
  · rw [hg, isDisguised]
  · rw [hc, isDisguised, ho]

end Clause

/-! ## Loading -/

namespace Descriptor

/-- Each clause read so far was read from a tree of its own. -/
def Parts.ClausesRead (f : Format) (p : Parts) : Prop :=
  ∀ xs, p.filters = some xs → ∀ x ∈ xs, ∃ u, Clause.ofTree f u = .ok x

theorem Parts.clausesRead_member {f : Format} {p q : Parts} {k : String} {t : Tree} (hp : p.ClausesRead f)
    (h : p.member f k t = .ok q) : q.ClausesRead f := by
  unfold Parts.member at h
  split at h
  case h_3 =>
    obtain ⟨filters, honce, h⟩ := Tree.bind_eq_ok_iff.1 h
    obtain ⟨-, xs, hread, rfl⟩ := Tree.once_eq_ok_iff.1 honce
    cases h
    rintro _ ⟨⟩ x hx
    obtain ⟨items, -, hitems⟩ := Tree.mem_of_asSequence hread
    obtain ⟨u, -, hu⟩ := hitems x hx
    exact ⟨u, hu⟩
  -- The other members leave the filters alone.
  all_goals
    obtain ⟨_, -, h⟩ := Tree.bind_eq_ok_iff.1 h
    cases h
    exact hp

/-- Every clause of a descriptor that is read was read from a tree of its own. -/
theorem exists_of_mem_filters {f : Format} {t : Tree} {d : Descriptor} (h : ofTree f t = .ok d) :
    ∀ x ∈ d.filters, ∃ u, Clause.ofTree f u = .ok x := by
  unfold ofTree at h
  split at h
  · obtain ⟨p, hp, h⟩ := Tree.bind_eq_ok_iff.1 h
    have hread : p.ClausesRead f := Tree.foldMembers_induction (Parts.ClausesRead f) hp (by simp [Parts.ClausesRead])
      fun _ _ _ _ _ ha hb => Parts.clausesRead_member ha hb
    obtain ⟨_, -, h⟩ := Tree.bind_eq_ok_iff.1 h
    cases h
    cases hx : p.filters with
    | none => simp
    | some xs => exact hread xs hx
  · cases h

theorem isDisguised_of_ofText {f : Format} {text : String} {d : Descriptor} (h : ofText f text = .ok d) :
    ∀ x ∈ d.filters, x.isDisguised = false := by
  obtain ⟨t, -, ht⟩ := Format.load_eq_ok_iff.1 h
  intro x hx
  obtain ⟨u, hu⟩ := exists_of_mem_filters ht x hx
  exact Clause.isDisguised_of_ofTree hu

end Descriptor

/-! ## Runs -/

/-- The clauses that are handed over as they stand. -/
def Edit.given : Edit → List Clause
  | addFilterClause c | setFilter c => [c]
  | setFilters cs => cs
  | _ => []

/-- One step in the making of a descriptor. -/
inductive Step where
  | load (f : Format) (text : String)
  | edit (e : Edit)

namespace Descriptor

/-- The descriptor after a step. A text that cannot be loaded leaves it as it was. -/
def after (d : Descriptor) : Step → Descriptor
  | .load f text =>
    match ofText f text with
    | .ok d' => d'
    | .error _ => d
  | .edit e => d.edit e

/-- The descriptor after a sequence of steps. -/
def run (d : Descriptor) (steps : List Step) : Descriptor := steps.foldl after d

/-- An edit puts no disguised clause into the chain that it was not given. -/
theorem mem_filters_edit {d : Descriptor} {e : Edit} {x : Clause} (hx : x ∈ (d.edit e).filters)
    (h : x.isDisguised) : x ∈ d.filters ∨ x ∈ e.given := by
  cases e with
  | addFilter _ _ | addFilterWith _ _ _ _ =>
    rcases List.mem_append.1 hx with hx | hx
    · exact .inl hx
    · rw [List.mem_singleton.1 hx, Clause.isDisguised_new] at h
      cases h
  | addFilterClause c => exact List.mem_append.1 hx
  | setFilter c => exact .inr hx
  | setFilters cs => exact .inr hx
  | _ => exact .inl hx

theorem mem_filters_after {d : Descriptor} {s : Step} {x : Clause} (hx : x ∈ (d.after s).filters)
    (h : x.isDisguised) : x ∈ d.filters ∨ ∃ e, s = .edit e ∧ x ∈ e.given := by
  cases s with
  | load f text =>
    unfold after at hx
    dsimp only at hx
    split at hx
    · rename_i d' hd
      rw [isDisguised_of_ofText hd x hx] at h
      cases h
    · exact .inl hx
  | edit e => exact (mem_filters_edit hx h).imp_right fun hg => ⟨e, rfl, hg⟩

theorem mem_filters_run {d : Descriptor} {steps : List Step} {x : Clause} (hx : x ∈ (d.run steps).filters)
    (h : x.isDisguised) : x ∈ d.filters ∨ ∃ e, .edit e ∈ steps ∧ x ∈ e.given := by
  induction steps generalizing d with
  | nil => exact .inl hx
  | cons s steps ih =>
    rcases ih hx with hx | ⟨e, he, hg⟩
    · exact (mem_filters_after hx h).imp_right fun ⟨e, he, hg⟩ => ⟨e, by simp [he], hg⟩
    · exact .inr ⟨e, List.mem_cons_of_mem s he, hg⟩

end Descriptor

/-! ## The text of a token -/

namespace Chain

/-- What the clause behind some others adds to a chain. -/
theorem pieces_at (before : Chain) (x : Clause) (rest : Chain) :
    pieces false 0 (before ++ x :: rest) =
      pieces false 0 before ++ (if joinsNext false before then x.joint else []) ++ x.pieces before.length ++
        pieces (!x.opens) (before.length + 1) rest := by
  rw [pieces_append, Nat.zero_add, pieces]
  simp only [List.append_assoc]

theorem bindings_at (before : Chain) (x : Clause) (rest : Chain) :
    bindings 0 (before ++ x :: rest) =
      bindings 0 before ++ x.bindings before.length ++ bindings (before.length + 1) rest := by
  rw [bindings_append, Nat.zero_add, bindings, List.append_assoc]

end Chain

namespace Descriptor

/-- However a descriptor comes about, a condition with a grouping operator in its
chain was handed over as that condition. The clause made of a grouping operator is
its token; and in any chain that comes about, a token is written bare and binds
nothing, and the clause after an opening one takes no keyword. A condition with a
grouping operator is written and bound like a comparison, and the next clause
takes its keyword, unless it closes a group. -/
theorem run_groups (steps : List Step) :
    (∀ x ∈ (run empty steps).filters, x.isDisguised → ∃ e, .edit e ∈ steps ∧ x ∈ e.given) ∧
    (∀ column value o k, o.isGrouping → ∃ g, Clause.new column value o k = .group g k ∧ g.token = o.text) ∧
    (∀ before g k rest, (run empty steps).filters = before ++ .group g k :: rest →
      Chain.pieces false 0 (run empty steps).filters =
        Chain.pieces false 0 before ++
          (if Chain.joinsNext false before then (Clause.group g k).joint else []) ++
          .text (" " ++ g.token) :: Chain.pieces (g = .closing) (before.length + 1) rest ∧
      Chain.bindings 0 (run empty steps).filters =
        Chain.bindings 0 before ++ Chain.bindings (before.length + 1) rest) ∧
    (∀ before c rest, (run empty steps).filters = before ++ .condition c :: rest → c.operator.isGrouping →
      Chain.pieces false 0 (run empty steps).filters =
        Chain.pieces false 0 before ++
          (if Chain.joinsNext false before then (Clause.condition c).joint else []) ++
          .text " " :: .text (c.column ++ " " ++ c.operator.text ++ " ") :: .marker (c.bindName before.length) ::
            Chain.pieces true (before.length + 1) rest ∧
      Chain.bindings 0 (run empty steps).filters =
        Chain.bindings 0 before ++ (c.bindName before.length, c.value) :: Chain.bindings (before.length + 1) rest) := by
  refine ⟨?_, ?_, ?_, ?_⟩
  · intro x hx h
    exact (mem_filters_run hx h).resolve_left (by simp [empty])
  · intro column value o k h
    exact Clause.new_of_isGrouping h column value k
  · intro before g k rest h
    rw [h, Chain.pieces_at, Chain.bindings_at]
    cases g <;> simp [Clause.pieces, Clause.bindings, Clause.opens]
  · intro before c rest h hc
    have hunary : c.operator.isUnary = false := by
      cases ho : c.operator <;> rw [ho] at hc <;> first | rfl | cases hc
    have hlist : c.operator.isList = false := by
      cases ho : c.operator <;> rw [ho] at hc <;> first | rfl | cases hc
    rw [h, Chain.pieces_at, Chain.bindings_at]
    simp [Clause.pieces, Clause.bindings, Clause.opens, Condition.pieces, Condition.bindings, hunary, hlist]

/-- A condition with an opening operator is bound, and the next clause is joined to it. -/
theorem run_groups_disguised :
    ∃ steps c, (∃ x ∈ (run empty steps).filters, x.isDisguised) ∧
      (run empty steps).compile .read .mysql = .ok c ∧ c.body = "SELECT * FROM `t` WHERE a ( :a_w0 AND b = :b_w1;" ∧
      c.params.get? "a_w0" = some (.int 1) := by
  let condition : Condition := (Condition.new "a" (.int 1)).withOperator .openGroup
  refine ⟨[.edit (.setScope "t"), .edit (.addFilterClause (.condition condition)), .edit (.addFilter "b" (.int 2))],
    _, ⟨.condition condition, ?_, rfl⟩, rfl, by decide, rfl⟩
  exact List.mem_cons_self

end Descriptor

end RowQuery
