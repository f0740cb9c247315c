import RowQuery.Compile
import RowQuery.Proofs.BindName
import RowQuery.Proofs.OrderedMap
/-!
# What a statement binds

The bind map of an action is filled in by setting `Descriptor.bound` entry by
entry: the bound columns of a write first, then the tests of the filter. No
entry meets a key that is there already, so the map lists exactly
`Descriptor.entries`, which names each entry by the place of its column among
the columns written or of its test in the chain (`params_toList`).
-/

namespace RowQuery

/-! ## The entries by their places -/

namespace Fields

/-- The columns that a write has, with their values: those not left out. -/
def written (role : String → ColumnRole) (kind : WriteKind) (l : List (String × Value)) :
    List (String × Value) :=
  l.filter fun e => (role e.1).treatment kind ≠ .omit

/-- The entries of the bound columns, each named by its place among the columns written. -/
def entries (role : String → ColumnRole) (kind : WriteKind) (l : List (String × Value)) :
    List (String × Value) :=
  (written role kind l).zipIdx.filterMap fun ((column, value), i) =>
    if (role column).treatment kind = .bind then some (column ++ "_" ++ toString i, value) else none

end Fields

/-- The entries of a chain: a condition that is no unary test binds its value
under its parameter and its place in the whole chain. -/
def Chain.entries (c : Chain) : List (String × Value) :=
  c.zipIdx.filterMap fun
    | (.condition x, k) =>
      if x.operator.isUnary then none else some (x.parameter ++ "_w" ++ toString k, x.value)
    | (.group _ _, _) => none

namespace Descriptor

/-- The entries of the first record in a write. -/
def recordEntries (d : Descriptor) (kind : WriteKind) : List (String × Value) :=
  match d.record? with
  | some record => Fields.entries (Schema.roleIn d.schema?) kind record.toList
  | none => []

/-- The entries of an action: those of the record it writes, then those of the
filter it applies. -/
def entries (d : Descriptor) : Action → List (String × Value)
  | .create => d.recordEntries .create
  | .update => d.recordEntries .update ++ Chain.entries d.filters
  | .read | .delete | .count => Chain.entries d.filters

/-- What an action binds, in the order in which it is set. -/
def bound (d : Descriptor) : Action → List (String × Value)
  | .create => Fields.bindings (d.writeFields .create)
  | .update => Fields.bindings (d.writeFields .update) ++ Chain.bindings 0 d.filters
  | .read | .delete | .count => Chain.bindings 0 d.filters

end Descriptor

namespace Fields

variable (role : String → ColumnRole) (kind : WriteKind)

theorem written_cons (e : String × Value) (l : List (String × Value)) :
    written role kind (e :: l) =
      if (role e.1).treatment kind = .omit then written role kind l else e :: written role kind l := by
  by_cases h : (role e.1).treatment kind = .omit <;> simp [written, h]

@[simp] theorem bindings_nil : bindings [] = [] := rfl

@[simp] theorem bindings_cons (f : Field) (fs : List Field) :
    bindings (f :: fs) = f.content.bindings ++ bindings fs := rfl

/-- The fields of a write are the columns written, in order, and each bound one
is named by its place. -/
theorem bindings_resolveFrom (n : Nat) (l : List (String × Value)) :
    bindings (resolveFrom role kind n l) =
      ((written role kind l).zipIdx n).filterMap fun ((column, value), i) =>
        if (role column).treatment kind = .bind then some (column ++ "_" ++ toString i, value) else none := by
  induction l generalizing n with
  | nil => rfl
  | cons e l ih =>
    obtain ⟨column, value⟩ := e
    cases h : (role column).treatment kind <;>
      simp [resolveFrom, written_cons, h, ih, FieldContent.bindings, Field.bindName]

/-- Every name bound by fields from a place on counts from there. -/
theorem name_of_mem_bindings {n : Nat} {l : List (String × Value)} {e : String × Value}
    (h : e ∈ bindings (resolveFrom role kind n l)) :
    ∃ column i, n ≤ i ∧ e.1 = Field.bindName column i := by
  induction l generalizing n with
  | nil => cases h
  | cons e' l ih =>
    obtain ⟨column, value⟩ := e'
    -- All but the first field count from one place further on.
    have later : e ∈ bindings (resolveFrom role kind (n + 1) l) →
        ∃ column i, n ≤ i ∧ e.1 = Field.bindName column i := fun h => by
      obtain ⟨column, i, hi, he⟩ := ih h
      exact ⟨column, i, by omega, he⟩
    simp only [resolveFrom] at h
    split at h
    · exact ih h
    · exact later h
    · exact later h
    · rcases List.mem_cons.1 h with rfl | h
      · exact ⟨column, n, Nat.le_refl n, rfl⟩
      · exact later h

theorem nodup_bindings (n : Nat) (l : List (String × Value)) :
    ((bindings (resolveFrom role kind n l)).map (·.1)).Nodup := by
  induction l generalizing n with
  | nil => exact List.nodup_nil
  | cons e l ih =>
    obtain ⟨column, value⟩ := e
    simp only [resolveFrom]
    split
    · exact ih n
    · exact ih (n + 1)
    · exact ih (n + 1)
    · refine List.nodup_cons.2 ⟨fun h => ?_, ih (n + 1)⟩
      obtain ⟨e, he, hname⟩ := List.mem_map.1 h
      obtain ⟨column', i, hi, hname'⟩ := name_of_mem_bindings role kind he
      have hn := (Field.bindName_inj (hname.symm.trans hname')).2
      omega

end Fields

namespace Chain

theorem bindings_eq (n : Nat) (c : Chain) :
    bindings n c = (c.zipIdx n).filterMap fun
      | (.condition x, k) =>
        if x.operator.isUnary then none else some (x.parameter ++ "_w" ++ toString k, x.value)
      | (.group _ _, _) => none := by
  induction c generalizing n with
  | nil => rfl
  | cons x c ih =>
    cases x with
    | group g k => simpa [bindings, Clause.bindings] using ih (n + 1)
    | condition x =>
      cases h : x.operator.isUnary <;>
        simpa [bindings, Clause.bindings, Condition.bindings, Condition.bindName, h] using ih (n + 1)

/-- Every name bound by clauses from a position on counts from there. -/
theorem name_of_mem_bindings {n : Nat} {c : Chain} {e : String × Value} (h : e ∈ bindings n c) :
    ∃ (x : Condition) (k : Nat), n ≤ k ∧ e.1 = x.bindName k := by
  induction c generalizing n with
  | nil => cases h
  | cons x c ih =>
    rcases List.mem_append.1 h with h | h
    · cases x with
      | group g k => cases h
      | condition x =>
        simp only [Clause.bindings, Condition.bindings] at h
        split at h
        · cases h
        · rw [List.mem_singleton] at h
          exact ⟨x, n, Nat.le_refl n, by rw [h]⟩
    · obtain ⟨x, k, hk, he⟩ := ih h
      exact ⟨x, k, by omega, he⟩

theorem nodup_bindings (n : Nat) (c : Chain) : ((bindings n c).map (·.1)).Nodup := by
  induction c generalizing n with
  | nil => exact List.nodup_nil
  | cons x c ih =>
    cases x with
    | group g k => exact ih (n + 1)
    | condition x =>
      simp only [bindings, Clause.bindings, Condition.bindings]
      split
      · exact ih (n + 1)
      · refine List.nodup_cons.2 ⟨fun h => ?_, ih (n + 1)⟩
        obtain ⟨e, he, hname⟩ := List.mem_map.1 h
        obtain ⟨x', k, hk, hname'⟩ := name_of_mem_bindings he
        have hn := (Condition.bindName_inj (hname.symm.trans hname')).2
        omega

end Chain

namespace Descriptor

variable (d : Descriptor)

theorem bindings_writeFields (kind : WriteKind) :
    Fields.bindings (d.writeFields kind) = d.recordEntries kind := by
  unfold writeFields recordEntries
  cases d.record? with
  | none => rfl
  | some record => exact Fields.bindings_resolveFrom _ kind 0 record.toList

theorem bound_eq_entries (a : Action) : d.bound a = d.entries a := by
  cases a <;> simp only [bound, entries, bindings_writeFields, Chain.bindings_eq, Chain.entries]

theorem name_of_mem_writeFields {kind : WriteKind} {e : String × Value}
    (h : e ∈ Fields.bindings (d.writeFields kind)) : ∃ column i, e.1 = Field.bindName column i := by
  unfold writeFields at h
  split at h
  · obtain ⟨column, i, -, he⟩ := Fields.name_of_mem_bindings _ kind h
    exact ⟨column, i, he⟩
  · cases h

theorem nodup_writeFields (kind : WriteKind) : ((Fields.bindings (d.writeFields kind)).map (·.1)).Nodup := by
  unfold writeFields
  split
  · exact Fields.nodup_bindings _ kind 0 _
  · exact List.nodup_nil

/-- The names of an action are distinct: within each family by their numbers,
across the two by the letter before the number. -/
theorem nodup_bound (a : Action) : ((d.bound a).map (·.1)).Nodup := by
  cases a with
  | create => exact d.nodup_writeFields .create
  | read | delete | count => exact Chain.nodup_bindings 0 d.filters
  | update =>
    rw [bound, List.map_append, List.nodup_append]
    -- Only a name of the record could meet one of the filter.
    refine ⟨d.nodup_writeFields .update, Chain.nodup_bindings 0 d.filters, ?_⟩
    intro k hk k' hk' heq
    obtain ⟨e, he, rfl⟩ := List.mem_map.1 hk
    obtain ⟨e', he', rfl⟩ := List.mem_map.1 hk'
    obtain ⟨column, i, hname⟩ := d.name_of_mem_writeFields he
    obtain ⟨x, j, -, hname'⟩ := Chain.name_of_mem_bindings he'
    exact Field.bindName_ne column i x j (by rw [← hname, heq, hname'])

/-! ## The map of a compiled statement -/

/-- The draft of a create has fields, and its fragments are made of them. -/
theorem draft_create {x : Draft} (h : d.draft .create = .ok x) :
    d.writeFields .create ≠ [] ∧
      x = {
        fragments := { d.tableFragment with
          columns := Fields.columnPieces (d.writeFields .create)
          values := Fields.valuePieces (d.writeFields .create) }
        params := .ofList (Fields.bindings (d.writeFields .create)) } := by
  simp only [draft] at h
  split at h
  · cases h
  · rename_i hf
    cases h
    exact ⟨fun he => hf (by rw [he]; rfl), rfl⟩

/-- The draft of an update has fields, and its filter binds after them. -/
theorem draft_update {x : Draft} (h : d.draft .update = .ok x) :
    d.writeFields .update ≠ [] ∧
      x = {
        fragments := { d.tableFragment with
          set := Fields.setPieces (d.writeFields .update), whereClause := Chain.whereClause d.filters }
        params := Chain.bind d.filters (.ofList (Fields.bindings (d.writeFields .update))) } := by
  simp only [draft] at h
  split at h
  · cases h
  · rename_i hf
    cases h
    exact ⟨fun he => hf (by rw [he]; rfl), rfl⟩

theorem draft_params {a : Action} {x : Draft} (h : d.draft a = .ok x) : x.params = .ofList (d.bound a) := by
  cases a with
  | create =>
    obtain ⟨-, rfl⟩ := d.draft_create h
    rfl
  | update =>
    obtain ⟨-, rfl⟩ := d.draft_update h
    exact (OrderedMap.insertAll_append .empty _ _).symm
  | read | delete | count =>
    cases h
    rfl

/-- A compiled statement comes from a draft. -/
theorem compile_ok {a : Action} {g : Dialect} {c : Compiled} (h : d.compile a g = .ok c) :
    ∃ x, d.draft a = .ok x ∧ d.bodyOf a g x = .ok c.body ∧ c.params = x.params ∧
      c.fragments = x.fragments.map g.write := by
  unfold compile at h
  split at h
  · cases h
  · rename_i x hx
    split at h
    · cases h
    · rename_i body hb
      cases h
      exact ⟨x, hx, hb, rfl, rfl⟩

theorem compile_params {a : Action} {g : Dialect} {c : Compiled} (h : d.compile a g = .ok c) :
    c.params = .ofList (d.bound a) := by
  obtain ⟨x, hx, -, hp, -⟩ := d.compile_ok h
  rw [hp, d.draft_params hx]

/-- No entry is lost: the map lists those of the action. -/
theorem toList_params {a : Action} {g : Dialect} {c : Compiled} (h : d.compile a g = .ok c) :
    c.params.toList = d.entries a := by
  rw [d.compile_params h, OrderedMap.toList_ofList (d.nodup_bound a), bound_eq_entries]

/-- The bind map is set entry by entry, no entry meets a key that is there
already, and so the map lists exactly the entries of the action. -/
theorem params_toList (a : Action) (g : Dialect) (c : Compiled) (h : d.compile a g = .ok c) :
    c.params = .ofList (d.bound a) ∧
      (∀ before e after, d.bound a = before ++ e :: after → e.1 ∉ (OrderedMap.ofList before).keys) ∧
      c.params.toList = d.entries a := by
  refine ⟨d.compile_params h, fun before e after hb => ?_, d.toList_params h⟩
  exact OrderedMap.not_mem_keys_ofList (hb ▸ d.nodup_bound a)

/-- Columns and parameters that end the way bind names do, with a value in one
column and one condition. -/
def lookalike (v : Value) : Descriptor :=
  ((Descriptor.new "t").addRecord [("a_w1", v), ("a", .bool true)]).setFilters
    [.condition ((Condition.new "a" v).withParameter "a_1"), .opening, .new "b" .null .isNull .or,
      .new "a" (.bool false) .ne .and, .closing]

theorem params_toList_lookalike :
    ∃ c, (lookalike .null).compile .update .mysql = .ok c ∧ c.params.toList = (lookalike .null).entries .update ∧
      (lookalike .null).entries .update =
        [("a_w1_0", .null), ("a_1", .bool true), ("a_1_w0", .null), ("a_w3", .bool false)] :=
  ⟨_, rfl, (params_toList (lookalike .null) .update .mysql _ rfl).2.2, rfl⟩

end Descriptor

end RowQuery
