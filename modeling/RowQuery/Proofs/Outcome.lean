import RowQuery.Compile
import RowQuery.Proofs.BindMap
import RowQuery.Proofs.TemplateGrammar
/-!
# When a descriptor has no statement

A write without a column to write fails before its template is looked at. A
broken template is all else that can go wrong (`compile_eq_error_iff`). Neither
the dialect nor what a fragment holds has a say in it.
-/

namespace RowQuery

/-- The roles of the columns that a write leaves out. -/
def WriteKind.omitted : WriteKind → List ColumnRole
  | .create => [.deleteUser, .deleteDate]
  | .update => [.deleteUser, .deleteDate, .autoIdentity, .createDate, .createUser]

theorem ColumnRole.treatment_eq_omit_iff (r : ColumnRole) (kind : WriteKind) :
    r.treatment kind = .omit ↔ r ∈ kind.omitted := by
  cases r <;> cases kind <;> decide

theorem Fields.resolveFrom_eq_nil_iff (role : String → ColumnRole) (kind : WriteKind) (n : Nat)
    (l : List (String × Value)) :
    resolveFrom role kind n l = [] ↔ ∀ column ∈ l.map (·.1), role column ∈ kind.omitted := by
  simp only [← ColumnRole.treatment_eq_omit_iff]
  induction l generalizing n with
  | nil => simp [resolveFrom]
  | cons e l ih =>
    obtain ⟨column, value⟩ := e
    cases h : (role column).treatment kind <;> simp [resolveFrom, h, ih]

namespace Descriptor

variable (d : Descriptor)

/-- The action writes a record, and there is none or the first one has no
column that is written. -/
def WritesNothing (a : Action) : Prop :=
  ∃ kind, a.writeKind? = some kind ∧ ∀ record, d.records.head? = some record →
    ∀ column ∈ record.keys, Schema.roleIn d.schema? column ∈ kind.omitted

theorem writeFields_eq_nil_iff (kind : WriteKind) :
    d.writeFields kind = [] ↔ ∀ record, d.records.head? = some record →
      ∀ column ∈ record.keys, Schema.roleIn d.schema? column ∈ kind.omitted := by
  unfold writeFields record?
  cases d.records.head? with
  | none => simp
  | some record =>
    simp only [Option.some.injEq, forall_eq']
    exact Fields.resolveFrom_eq_nil_iff _ kind 0 record.toList

theorem writesNothing_iff (a : Action) :
    d.WritesNothing a ↔ ∃ kind, a.writeKind? = some kind ∧ d.writeFields kind = [] := by
  simp only [WritesNothing, writeFields_eq_nil_iff]

theorem draft_of_writesNothing {a : Action} (h : d.WritesNothing a) :
    d.draft a = .error (.emptyFieldSet d.scope) := by
  obtain ⟨kind, ha, hw⟩ := (d.writesNothing_iff a).1 h
  cases a <;> cases ha <;> simp only [draft, hw, List.isEmpty_nil, if_true]

theorem draft_of_writes {a : Action} (h : ¬ d.WritesNothing a) : ∃ x, d.draft a = .ok x := by
  rw [writesNothing_iff] at h
  cases a with
  | create =>
    have hw : d.writeFields .create ≠ [] := fun he => h ⟨.create, rfl, he⟩
    exact ⟨_, by simp only [draft, List.isEmpty_iff, if_neg hw]; rfl⟩
  | update =>
    have hw : d.writeFields .update ≠ [] := fun he => h ⟨.update, rfl, he⟩
    exact ⟨_, by simp only [draft, List.isEmpty_iff, if_neg hw]; rfl⟩
  | read | delete | count => exact ⟨_, rfl⟩

/-- Where there is something to write only a template can fail, and its fault
does not depend on what it is filled with. -/
theorem compile_eq_error_iff (a : Action) (g : Dialect) (e : CompileError) :
    d.compile a g = .error e ↔
      (d.WritesNothing a ∧ e = .emptyFieldSet d.scope) ∨
      (¬ d.WritesNothing a ∧ ∃ t m, d.override? = some t ∧ Template.fault? t = some m ∧ e = .malformedTemplate m) := by
  by_cases h : d.WritesNothing a
  · simp only [compile, d.draft_of_writesNothing h, Except.error.injEq, h, true_and, not_true, false_and, or_false]
    exact eq_comm
  · obtain ⟨x, hx⟩ := d.draft_of_writes h
    simp only [compile, bodyOf, hx, h, not_false_eq_true, true_and, false_and, false_or]
    cases d.override? with
    | none => simp
    | some t =>
      have hf (m : Template.Malformed) := Template.render_eq_error_iff t (x.fragments.map g.write) m
      cases hr : Template.render t (x.fragments.map g.write) with
      | error m => simp [hr, (hf m).1 hr, eq_comm]
      | ok body =>
        have hn : Template.fault? t = none := Option.eq_none_iff_forall_ne_some.2 fun m hm => by
          rw [(hf m).2 hm] at hr
          cases hr
        simp [hr, hn]

theorem compile_eq_malformedTemplate_iff (a : Action) (g : Dialect) (m : Template.Malformed) :
    d.compile a g = .error (.malformedTemplate m) ↔
      ¬ d.WritesNothing a ∧ ∃ t, d.override? = some t ∧ Template.fault? t = some m := by
  simp [compile_eq_error_iff]

theorem compile_eq_ok_iff (a : Action) (g : Dialect) :
    (∃ c, d.compile a g = .ok c) ↔
      ¬ d.WritesNothing a ∧ ∀ t, d.override? = some t → Template.fault? t = none := by
  have hok : (∃ c, d.compile a g = .ok c) ↔ ∀ e, d.compile a g ≠ .error e := by
    cases d.compile a g <;> simp
  rw [hok]
  constructor
  · intro h
    have hw : ¬ d.WritesNothing a := fun hw =>
      h _ ((d.compile_eq_error_iff a g _).2 (.inl ⟨hw, rfl⟩))
    refine ⟨hw, fun t ht => Option.eq_none_iff_forall_ne_some.2 fun m hm => ?_⟩
    exact h _ ((d.compile_eq_malformedTemplate_iff a g m).2 ⟨hw, t, ht, hm⟩)
  · rintro ⟨hw, ht⟩ e he
    rcases (d.compile_eq_error_iff a g e).1 he with ⟨hw', -⟩ | ⟨-, t, m, ho, hm, -⟩
    · exact hw hw'
    · rw [ht t ho] at hm
      cases hm

/-- A descriptor compiles, or there is one of two causes why it does not, the
first before the second. Neither a dialect nor a fragment decides between them. -/
theorem compile_outcome (a : Action) (g : Dialect) :
    (∀ scope, d.compile a g = .error (.emptyFieldSet scope) ↔ d.WritesNothing a ∧ scope = d.scope) ∧
    ((∃ m, d.compile a g = .error (.malformedTemplate m)) ↔
      ¬ d.WritesNothing a ∧ ∃ t, d.override? = some t ∧ Template.Broken t) ∧
    (∀ m, d.compile a g = .error (.malformedTemplate m) →
      ∃ t, d.override? = some t ∧ Template.fault? t = some m) ∧
    ((∃ c, d.compile a g = .ok c) ↔
      ¬ d.WritesNothing a ∧ ∀ t, d.override? = some t → ¬ Template.Broken t) ∧
    (∀ g' e, d.compile a g = .error e ↔ d.compile a g' = .error e) ∧
    ∀ t f m, Template.render t f = .error m ↔ Template.fault? t = some m := by
  have hb (t : String) : ¬ Template.Broken t ↔ Template.fault? t = none := by
    rw [← Template.fault?_eq_some_iff, Option.eq_none_iff_forall_ne_some, not_exists]
  refine ⟨fun scope => ?_, ?_, fun m hm => ?_, ?_, fun g' e => ?_, fun t f m => Template.render_eq_error_iff t f m⟩
  · simp [compile_eq_error_iff]
  · simp only [compile_eq_malformedTemplate_iff, ← Template.fault?_eq_some_iff]
    constructor
    · rintro ⟨m, hw, t, ht, hm⟩
      exact ⟨hw, t, ht, m, hm⟩
    · rintro ⟨hw, t, ht, m, hm⟩
      exact ⟨m, hw, t, ht, hm⟩
  · exact ((d.compile_eq_malformedTemplate_iff a g m).1 hm).2
  · simp only [compile_eq_ok_iff, hb]
  · rw [compile_eq_error_iff, compile_eq_error_iff]

example : ((Descriptor.new "t").setOverride "<% if").compile .create .mysql = .error (.emptyFieldSet "t") := rfl

end Descriptor

end RowQuery
