import RowQuery.Compile
import RowQuery.Proofs.BindMap
/-!
# What the log accounts for

A column of a record is left out, written as a literal or bound, and a condition
is a unary test or bound. What is not bound is logged, so the log and the bind
map together account for every column (`columnEvents_account`) and for every
condition (`Chain.events_account`). Behind these events stands one about the
result, and then the text of the statement if that is asked for
(`compile_logs`).
-/

namespace RowQuery

namespace Event

/-- The event has that level and that message. -/
def hasMessage (level : LogLevel) (message : String) (e : Event) : Bool :=
  e.level = level && e.message = message

/-- The text of a detail of an event. -/
def detail? (name : String) (e : Event) : Option String :=
  (e.fields.find? fun f => f.name = name).map (·.text)

/-- How many columns were left out. -/
def omitted (log : List Event) : Nat := log.countP (hasMessage .trace "field omitted")

/-- How many columns were written as literals. -/
def literals (log : List Event) : Nat := log.countP (hasMessage .trace "field rendered as literal")

/-- How many tests bound nothing. -/
def unaries (log : List Event) : Nat := log.countP (hasMessage .trace "unary filter binds nothing")

/-- Only a column left out is logged by that message, and so for the other two. -/
theorem hasMessage_fieldOmitted (e : Event) :
    hasMessage .trace "field omitted" e = (e matches .fieldOmitted ..) := by
  cases e <;> rfl

theorem hasMessage_fieldLiteral (e : Event) :
    hasMessage .trace "field rendered as literal" e = (e matches .fieldLiteral ..) := by
  cases e <;> rfl

theorem hasMessage_unaryFilter (e : Event) :
    hasMessage .trace "unary filter binds nothing" e = (e matches .unaryFilter ..) := by
  cases e <;> rfl

@[simp] theorem omitted_append (l l' : List Event) : omitted (l ++ l') = omitted l + omitted l' :=
  List.countP_append

@[simp] theorem literals_append (l l' : List Event) : literals (l ++ l') = literals l + literals l' :=
  List.countP_append

@[simp] theorem unaries_append (l l' : List Event) : unaries (l ++ l') = unaries l + unaries l' :=
  List.countP_append

end Event

open Event

/-! ## Columns -/

namespace Descriptor

/-- A write logs of a column that it is left out or a literal. -/
theorem mem_columnEvents {role : String → ColumnRole} {kind : WriteKind} {g : Dialect} {l : List (String × Value)}
    {e : Event} (h : e ∈ columnEvents role kind g l) :
    (∃ column r, e = .fieldOmitted column r kind) ∨ ∃ column r text, e = .fieldLiteral column r text := by
  induction l with
  | nil => cases h
  | cons x l ih =>
    rcases List.mem_append.1 h with h | h
    · split at h
      · exact .inl ⟨_, _, List.mem_singleton.1 h⟩
      · exact .inr ⟨_, _, _, List.mem_singleton.1 h⟩
      · exact .inr ⟨_, _, _, List.mem_singleton.1 h⟩
      · cases h
    · exact ih h

/-- Each column of a write is left out, a literal or bound. -/
theorem columnEvents_account (role : String → ColumnRole) (kind : WriteKind) (g : Dialect) (n : Nat)
    (l : List (String × Value)) :
    omitted (columnEvents role kind g l) + literals (columnEvents role kind g l) +
      (Fields.bindings (Fields.resolveFrom role kind n l)).length = l.length := by
  induction l generalizing n with
  | nil => rfl
  | cons e l ih =>
    obtain ⟨column, value⟩ := e
    -- A column that is left out does not count in the numbering, every other one does.
    have ih₀ := ih n
    have ih₁ := ih (n + 1)
    simp only [omitted, literals, funext hasMessage_fieldOmitted, funext hasMessage_fieldLiteral] at ih₀ ih₁ ⊢
    cases h : (role column).treatment kind <;>
      simp [columnEvents, Fields.resolveFrom, h, FieldContent.bindings] <;> omega

theorem unaries_columnEvents (role : String → ColumnRole) (kind : WriteKind) (g : Dialect)
    (l : List (String × Value)) : unaries (columnEvents role kind g l) = 0 := by
  refine List.countP_eq_zero.2 fun e he => ?_
  rcases mem_columnEvents he with ⟨column, r, rfl⟩ | ⟨column, r, text, rfl⟩ <;> simp [hasMessage_unaryFilter]

end Descriptor

/-! ## Conditions -/

/-- The clause is a condition and no group token. -/
def Clause.isCondition : Clause → Bool
  | .condition _ => true
  | .group _ _ => false

namespace Chain

/-- A filter logs its unary tests only. -/
theorem mem_events {n : Nat} {c : Chain} {e : Event} (h : e ∈ events n c) :
    ∃ column k, e = .unaryFilter column k := by
  induction c generalizing n with
  | nil => cases h
  | cons x c ih =>
    cases x with
    | group g k => exact ih h
    | condition x =>
      rcases List.mem_append.1 h with h | h
      · split at h
        · exact ⟨_, _, List.mem_singleton.1 h⟩
        · cases h
      · exact ih h

/-- Each condition is a unary test or bound. -/
theorem events_account (n : Nat) (c : Chain) :
    unaries (events n c) + (bindings n c).length = c.countP Clause.isCondition := by
  induction c generalizing n with
  | nil => rfl
  | cons x c ih =>
    cases x with
    | group g k => exact ih (n + 1)
    | condition x =>
      have ih := ih (n + 1)
      simp only [unaries, funext hasMessage_unaryFilter] at ih ⊢
      cases hx : x.operator.isUnary <;>
        simp [events, bindings, Clause.bindings, Condition.bindings, hx, List.countP_cons, Clause.isCondition] <;> omega

theorem omitted_events (n : Nat) (c : Chain) : omitted (events n c) = 0 := by
  refine List.countP_eq_zero.2 fun e he => ?_
  obtain ⟨column, k, rfl⟩ := mem_events he
  simp [hasMessage_fieldOmitted]

theorem literals_events (n : Nat) (c : Chain) : literals (events n c) = 0 := by
  refine List.countP_eq_zero.2 fun e he => ?_
  obtain ⟨column, k, rfl⟩ := mem_events he
  simp [hasMessage_fieldLiteral]

end Chain

namespace Descriptor

variable (d : Descriptor)

/-! ## A whole run -/

/-- A write that has fields logs the columns of its record. -/
theorem writeEvents_of_fields {kind : WriteKind} (h : d.writeFields kind ≠ []) (g : Dialect) :
    ∃ record, d.record? = some record ∧
      d.writeFields kind = Fields.resolveFrom (Schema.roleIn d.schema?) kind 0 record.toList ∧
      d.writeEvents kind g = columnEvents (Schema.roleIn d.schema?) kind g record.toList := by
  have he : (d.writeFields kind).isEmpty = false := by simpa using h
  unfold writeEvents
  rw [he]
  unfold writeFields at h ⊢
  cases hr : d.record? with
  | none =>
    rw [hr] at h
    exact absurd rfl h
  | some record => exact ⟨record, rfl, rfl, by simp [fieldEvents]⟩

/-- Where no entry meets another's key, the bind map is as long as what is set. -/
theorem size_params {a : Action} {g : Dialect} {c : Compiled} (h : d.compile a g = .ok c) :
    c.params.size = (d.bound a).length := by
  have hl := congrArg List.length (OrderedMap.toList_ofList (d.nodup_bound a))
  rw [d.compile_params h]
  exact hl

/-- What is logged before the result traces one column or condition, or says that none is left. -/
theorem level_of_mem_partEvents {a : Action} {g : Dialect} {e : Event} (h : e ∈ d.partEvents a g) :
    e.level = .trace ∨ ∃ kind, e = .noFields kind d.scope := by
  have hc {e : Event} (h : e ∈ Chain.events 0 d.filters) : e.level = .trace := by
    obtain ⟨column, k, rfl⟩ := Chain.mem_events h
    rfl
  have hw {kind : WriteKind} {e : Event} (h : e ∈ d.writeEvents kind g) :
      e.level = .trace ∨ ∃ kind, e = .noFields kind d.scope := by
    rcases List.mem_append.1 h with h | h
    · split at h
      · rcases mem_columnEvents h with ⟨column, r, rfl⟩ | ⟨column, r, text, rfl⟩ <;> exact .inl rfl
      · cases h
    · split at h
      · exact .inr ⟨kind, List.mem_singleton.1 h⟩
      · cases h
  cases a with
  | create => exact hw h
  | update =>
    rcases List.mem_append.1 h with h | h
    · exact hw h
    · split at h
      · cases h
      · exact .inl (hc h)
  | read | delete | count => exact .inl (hc h)

/-- A log before the result, and the entries bound, account for what the action goes through. -/
def Accounts (a : Action) (log : List Event) (bound : Nat) : Prop :=
  match a with
  | .create => ∃ record, d.record? = some record ∧ omitted log + literals log + bound = record.size
  | .read | .delete | .count => unaries log + bound = d.filters.countP Clause.isCondition
  | .update => ∃ record, d.record? = some record ∧
      omitted log + literals log + unaries log + bound = record.size + d.filters.countP Clause.isCondition

theorem partEvents_account {a : Action} {x : Draft} (h : d.draft a = .ok x) (g : Dialect) :
    d.Accounts a (d.partEvents a g) (d.bound a).length := by
  have hc := Chain.events_account 0 d.filters
  cases a with
  | create =>
    obtain ⟨record, hr, hf, he⟩ := d.writeEvents_of_fields (d.draft_create h).1 g
    refine ⟨record, hr, ?_⟩
    rw [partEvents, he, bound, hf]
    exact columnEvents_account _ .create g 0 record.toList
  | update =>
    obtain ⟨hn, -⟩ := d.draft_update h
    obtain ⟨record, hr, hf, he⟩ := d.writeEvents_of_fields hn g
    have hp : d.partEvents .update g =
        columnEvents (Schema.roleIn d.schema?) .update g record.toList ++ Chain.events 0 d.filters := by
      have hne : (d.writeFields .update).isEmpty = false := by simpa using hn
      rw [partEvents, he, hne]
      rfl
    have ha := columnEvents_account (Schema.roleIn d.schema?) .update g 0 record.toList
    have hs : record.toList.length = record.size := rfl
    refine ⟨record, hr, ?_⟩
    simp only [hp, bound, hf, omitted_append, literals_append, unaries_append, unaries_columnEvents,
      Chain.omitted_events, Chain.literals_events, List.length_append]
    omega
  | read | delete | count => exact hc

/-- What is logged about the result does not trace anything. -/
theorem resultEvents_account (a a' : Action) (g : Dialect) (log : List Event) (n : Nat) :
    d.Accounts a (log ++ d.resultEvents a' g) n ↔ d.Accounts a log n := by
  have hr : ∀ e ∈ d.resultEvents a' g, e.level ≠ .trace := by
    unfold resultEvents
    split
    · split <;> simp [level]
    · simp [level]
  have h (m : String) : (d.resultEvents a' g).countP (hasMessage .trace m) = 0 :=
    List.countP_eq_zero.2 fun e he => by simp [hasMessage, hr e he]
  have ho : omitted (d.resultEvents a' g) = 0 := h _
  have hl : literals (d.resultEvents a' g) = 0 := h _
  have hu : unaries (d.resultEvents a' g) = 0 := h _
  cases a <;> simp only [Accounts, omitted_append, literals_append, unaries_append, ho, hl, hu, Nat.add_zero]

theorem filter_partEvents {p : Event → Bool} (ht : ∀ e : Event, e.level = .trace → p e = false)
    (hn : ∀ kind, p (.noFields kind d.scope) = false) (a : Action) (g : Dialect) :
    (d.partEvents a g).filter p = [] := by
  refine List.filter_eq_nil_iff.2 fun e he => ?_
  rcases d.level_of_mem_partEvents he with hl | ⟨kind, rfl⟩
  · simp [ht e hl]
  · simp [hn kind]

/-- The log tells how a compilation ends: by one event about the statement, then
its text if that is asked for, or by one event about the error. With the bind
map, the log of a statement accounts for every column and every condition. -/
theorem compile_logs (a : Action) (g : Dialect) :
    match d.compile a g with
    | .ok c =>
      (∃ e, (d.events a g).filter (hasMessage .debug "compiled query") = [e] ∧
        e.detail? "params" = some (toString c.params.size) ∧ e.detail? "body" = some c.body) ∧
      (d.events a g).filter (·.level = .warn) = [] ∧
      (d.events a g).filter (·.level = .info) = (if 5 ≤ d.logLevel then [.body a c.body] else []) ∧
      (5 ≤ d.logLevel → (d.events a g).getLast? = some (.body a c.body)) ∧
      d.Accounts a (d.events a g) c.params.size
    | .error e =>
      (d.events a g).filter (hasMessage .debug "compiled query") = [] ∧
      (∃ e', (d.events a g).filter (·.level = .warn) = [e'] ∧ e'.message = "compile failed: " ++ e.message) ∧
      (d.events a g).filter (·.level = .info) = [] := by
  have hd : (d.partEvents a g).filter (hasMessage .debug "compiled query") = [] := by
    refine d.filter_partEvents (fun e he => by simp [hasMessage, he]) (fun kind => ?_) a g
    cases kind <;> rfl
  have hw : (d.partEvents a g).filter (·.level = .warn) = [] :=
    d.filter_partEvents (fun e he => by simp [he]) (fun kind => by simp [level]) a g
  have hi : (d.partEvents a g).filter (·.level = .info) = [] :=
    d.filter_partEvents (fun e he => by simp [he]) (fun kind => by simp [level]) a g
  cases hc : d.compile a g with
  | error e =>
    simp only [events, List.filter_append, hd, hw, hi, List.nil_append, resultEvents, hc]
    exact ⟨rfl, ⟨_, rfl, rfl⟩, rfl⟩
  | ok c =>
    have hr : d.resultEvents a g = .compiled g.name a d.scope c.params.size c.body ::
        if 5 ≤ d.logLevel then [.body a c.body] else [] := by
      rw [resultEvents, hc]
      rfl
    have ha : d.Accounts a (d.events a g) c.params.size := by
      obtain ⟨x, hx, -⟩ := d.compile_ok hc
      rw [events, resultEvents_account, d.size_params hc]
      exact d.partEvents_account hx g
    refine ⟨⟨.compiled g.name a d.scope c.params.size c.body, ?_, rfl, rfl⟩, ?_, ?_, fun hl => ?_, ha⟩
    · rw [events, List.filter_append, hd, hr]
      split <;> rfl
    · rw [events, List.filter_append, hw, hr]
      split <;> rfl
    · rw [events, List.filter_append, hi, hr]
      split <;> rfl
    · rw [events, hr, if_pos hl]
      simp

end Descriptor

end RowQuery
