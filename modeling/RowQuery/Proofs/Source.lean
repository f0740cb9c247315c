import Mathlib.Data.List.Forall2
import RowQuery.Proofs.BindMap
/-!
# Where bound values come from

A bound value stands in a column of the first record or in a clause of the
filter. `Descriptor.sources` lists the names that an action binds, each with
the place of its value; it looks at no value itself. The bind map of a compiled
statement gives each name the descriptor's value at its place
(`params_supplied`).
-/

namespace RowQuery

/-- The place of a bound value: a column of the first record, or a clause of the chain. -/
inductive Source where
  | column (name : String)
  | clause (position : Nat)
deriving DecidableEq, Repr

/-- The sources of `Fields.entries`. -/
def Fields.sources (role : String → ColumnRole) (kind : WriteKind) (l : List (String × Value)) :
    List (String × Source) :=
  (written role kind l).zipIdx.filterMap fun ((column, _), i) =>
    if (role column).treatment kind = .bind then some (column ++ "_" ++ toString i, .column column) else none

/-- The sources of `Chain.entries`. -/
def Chain.sources (c : Chain) : List (String × Source) :=
  c.zipIdx.filterMap fun
    | (.condition x, k) =>
      if x.operator.isUnary then none else some (x.parameter ++ "_w" ++ toString k, .clause k)
    | (.group _ _, _) => none

namespace Descriptor

def recordSources (d : Descriptor) (kind : WriteKind) : List (String × Source) :=
  match d.record? with
  | some record => Fields.sources (Schema.roleIn d.schema?) kind record.toList
  | none => []

/-- The names that an action binds, each with the place of its value. -/
def sources (d : Descriptor) : Action → List (String × Source)
  | .create => d.recordSources .create
  | .update => d.recordSources .update ++ Chain.sources d.filters
  | .read | .delete | .count => Chain.sources d.filters

/-- The value that a descriptor has at a place. -/
def valueAt? (d : Descriptor) : Source → Option Value
  | .column name => d.record?.bind fun record => record.get? name
  | .clause k =>
    match d.filters[k]? with
    | some (.condition x) => some x.value
    | _ => none

/-- An entry of a bind map has the name of a source and the descriptor's value there. -/
def Supplies (d : Descriptor) (e : String × Value) (s : String × Source) : Prop :=
  e.1 = s.1 ∧ d.valueAt? s.2 = some e.2

end Descriptor

theorem forall₂_filterMap {α β γ : Type} {R : β → γ → Prop} {f : α → Option β} {g : α → Option γ} {l : List α}
    (h : ∀ x ∈ l, Option.Rel R (f x) (g x)) : List.Forall₂ R (l.filterMap f) (l.filterMap g) := by
  induction l with
  | nil => exact .nil
  | cons x l ih =>
    have ih := ih fun y hy => h y (List.mem_cons_of_mem x hy)
    have hx := h x List.mem_cons_self
    rw [List.filterMap_cons, List.filterMap_cons]
    cases hf : f x <;> cases hg : g x <;> rw [hf, hg] at hx <;> cases hx
    · exact ih
    · exact .cons ‹_› ih

theorem exists_of_mem_forall₂ {α β : Type} {R : α → β → Prop} {l : List α} {m : List β} (h : List.Forall₂ R l m)
    {x : α} (hx : x ∈ l) : ∃ y ∈ m, R x y := by
  induction h with
  | nil => cases hx
  | cons hr _ ih =>
    rcases List.mem_cons.1 hx with rfl | hx
    · exact ⟨_, List.mem_cons_self, hr⟩
    · obtain ⟨y, hy, hr⟩ := ih hx
      exact ⟨y, List.mem_cons_of_mem _ hy, hr⟩

namespace Descriptor

variable (d : Descriptor)

theorem recordEntries_supplied (kind : WriteKind) :
    List.Forall₂ d.Supplies (d.recordEntries kind) (d.recordSources kind) := by
  unfold recordEntries recordSources
  cases hr : d.record? with
  | none => exact .nil
  | some record =>
    refine forall₂_filterMap fun ⟨⟨column, value⟩, i⟩ hx => ?_
    have hm : (column, value) ∈ record.toList := (List.mem_filter.1 (List.fst_mem_of_mem_zipIdx hx)).1
    -- A record has each column once, so a look-up finds the value that is listed.
    have hv : d.valueAt? (.column column) = some value := by
      rw [valueAt?, hr]
      exact OrderedMap.get?_eq_some_iff.2 hm
    dsimp only
    split
    · exact .some ⟨rfl, hv⟩
    · exact .none

theorem chainEntries_supplied : List.Forall₂ d.Supplies (Chain.entries d.filters) (Chain.sources d.filters) := by
  refine forall₂_filterMap fun ⟨x, k⟩ hx => ?_
  have hk : d.filters[k]? = some x := List.mem_zipIdx_iff_getElem?.1 hx
  cases x with
  | group g c => exact .none
  | condition x =>
    dsimp only
    split
    · exact .none
    · exact .some ⟨rfl, by rw [valueAt?, hk]⟩

theorem entries_supplied (a : Action) : List.Forall₂ d.Supplies (d.entries a) (d.sources a) := by
  cases a with
  | create => exact d.recordEntries_supplied .create
  | update => exact List.rel_append (d.recordEntries_supplied .update) d.chainEntries_supplied
  | read | delete | count => exact d.chainEntries_supplied

theorem params_supplied {a : Action} {g : Dialect} {c : Compiled} (h : d.compile a g = .ok c) :
    List.Forall₂ d.Supplies c.params.toList (d.sources a) := by
  rw [d.toList_params h]
  exact d.entries_supplied a

end Descriptor

end RowQuery
