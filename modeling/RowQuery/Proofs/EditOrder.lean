import Mathlib.Data.List.Induction
import RowQuery.Descriptor.Edit
/-!
# The order of edits

An edit writes one part of a descriptor, or two where it sets a window as a
whole, and looks at no other part. So what a sequence of edits leaves in a part
depends on the edits that write it alone, and edits of different parts may
change places (`Descriptor.editAll_order`). A list is left with what the last
edit to replace it put there and what later ones added
(`Change.settles_foldl`).
-/

namespace RowQuery

/-- The parts of a descriptor. -/
inductive Part where
  | scope
  | records
  | filters
  | sort
  | begin
  | cap
  | projection
  | schema
  | override
  | logLevel
deriving DecidableEq, Repr

namespace Edit

/-- The parts that an edit writes. -/
def parts : Edit → List Part
  | setScope _ => [.scope]
  | addRecord _ | setRecords _ => [.records]
  | addFilter _ _ | addFilterWith _ _ _ _ | addFilterClause _ | setFilter _ | setFilters _ => [.filters]
  | addSort _ | setSort _ => [.sort]
  | setBegin _ => [.begin]
  | setCap _ => [.cap]
  | setPagination _ => [.begin, .cap]
  | setProjection _ => [.projection]
  | setSchema _ | clearSchema => [.schema]
  | setOverride _ | clearOverride => [.override]
  | setLogLevel _ => [.logLevel]

/-- The edits that write a part, in order. -/
def writing (p : Part) (es : List Edit) : List Edit := es.filter fun e => p ∈ e.parts

end Edit

namespace Descriptor

/-- A descriptor with one of its parts, the others as if they had never been set. -/
def only (d : Descriptor) : Part → Descriptor
  | .scope => { empty with scope := d.scope }
  | .records => { empty with records := d.records }
  | .filters => { empty with filters := d.filters }
  | .sort => { empty with sort := d.sort }
  | .begin => { empty with pagination := ⟨d.pagination.begin?, none⟩ }
  | .cap => { empty with pagination := ⟨none, d.pagination.cap?⟩ }
  | .projection => { empty with projection := d.projection }
  | .schema => { empty with schema? := d.schema? }
  | .override => { empty with override? := d.override? }
  | .logLevel => { empty with logLevel := d.logLevel }

/-- A descriptor is its parts. -/
theorem eq_of_only {d d' : Descriptor} (h : ∀ p, d.only p = d'.only p) : d = d' := by
  have hbegin := congrArg (·.pagination.begin?) (h .begin)
  have hcap := congrArg (·.pagination.cap?) (h .cap)
  have hpagination : d.pagination = d'.pagination := by
    simp only [only] at hbegin hcap
    cases hd : d.pagination
    cases hd' : d'.pagination
    simp_all
  have hscope := congrArg scope (h .scope)
  have hrecords := congrArg records (h .records)
  have hfilters := congrArg filters (h .filters)
  have hsort := congrArg sort (h .sort)
  have hprojection := congrArg projection (h .projection)
  have hschema := congrArg schema? (h .schema)
  have hoverride := congrArg override? (h .override)
  have hlogLevel := congrArg logLevel (h .logLevel)
  cases d
  cases d'
  simp_all [only]

/-! ## One edit -/

/-- What an edit makes of a part depends on that part alone. -/
theorem only_edit (d : Descriptor) (e : Edit) (p : Part) : (d.edit e).only p = ((d.only p).edit e).only p := by
  cases e <;> cases p <;> rfl

/-- An edit leaves the parts alone that it does not write. -/
theorem only_edit_of_not_mem {e : Edit} {p : Part} (h : p ∉ e.parts) (d : Descriptor) :
    (d.edit e).only p = d.only p := by
  cases e <;> cases p <;> first | rfl | exact absurd (by simp [Edit.parts]) h

/-! ## Sequences of edits -/

/-- The edits that do not write a part can be left out where only that part is looked at. -/
theorem only_editAll {d d' : Descriptor} {p : Part} (h : d.only p = d'.only p) (es : List Edit) :
    (d.editAll es).only p = (d'.editAll (Edit.writing p es)).only p := by
  induction es generalizing d d' with
  | nil => exact h
  | cons e es ih =>
    by_cases hp : p ∈ e.parts
    · have hw : Edit.writing p (e :: es) = e :: Edit.writing p es := by simp [Edit.writing, hp]
      rw [hw]
      apply ih
      rw [only_edit, h, ← only_edit]
    · have hw : Edit.writing p (e :: es) = Edit.writing p es := by simp [Edit.writing, hp]
      rw [hw]
      apply ih
      rw [only_edit_of_not_mem hp, h]

/-- Two sequences that edit each part in the same way make the same descriptor. -/
theorem editAll_congr {es es' : List Edit} (h : ∀ p, Edit.writing p es = Edit.writing p es') (d : Descriptor) :
    d.editAll es = d.editAll es' := by
  apply eq_of_only
  intro p
  calc
    (d.editAll es).only p = (d.editAll (Edit.writing p es)).only p := only_editAll rfl es
    _ = (d.editAll (Edit.writing p es')).only p := by rw [h p]
    _ = (d.editAll es').only p := (only_editAll rfl es').symm

end Descriptor

/-! ## Lists that edits build up -/

/-- What an edit does to a list. -/
inductive Change (α : Type) where
  | replace (l : List α)
  | add (l : List α)

namespace Change

variable {α : Type}

def apply (l : List α) : Change α → List α
  | replace l' => l'
  | add l' => l ++ l'

/-- What changes leave of a list: what the last one to replace it put there, or the
list itself if none did, and then what was added, in order. -/
def Settles (start : List α) (changes : List (Change α)) (final : List α) : Prop :=
  (∃ added : List (List α), changes = added.map add ∧ final = start ++ added.flatten) ∨
    ∃ (before : List (Change α)) (l : List α) (added : List (List α)),
      changes = before ++ replace l :: added.map add ∧ final = l ++ added.flatten

theorem settles_foldl (start : List α) (changes : List (Change α)) :
    Settles start changes (changes.foldl apply start) := by
  -- From the end: the last change either replaces everything or joins what is added.
  induction changes using List.reverseRecOn with
  | nil => exact .inl ⟨[], rfl, by simp⟩
  | append_singleton changes c ih =>
    rw [List.foldl_append, List.foldl_cons, List.foldl_nil]
    cases c with
    | replace l => exact .inr ⟨changes, l, [], rfl, by simp [apply]⟩
    | add l =>
      rcases ih with ⟨added, hc, hf⟩ | ⟨before, l', added, hc, hf⟩
      · left
        refine ⟨added ++ [l], by simp [hc], ?_⟩
        rw [hf]
        simp [apply]
      · right
        refine ⟨before, l', added ++ [l], by simp [hc], ?_⟩
        rw [hf]
        simp [apply]

end Change

namespace Edit

def onRecords : Edit → Change Record
  | addRecord pairs => .add [.ofList pairs]
  | setRecords records => .replace records
  | _ => .add []

def onFilters : Edit → Change Clause
  | addFilter column value => .add [.new column value .eq .and]
  | addFilterWith column value o k => .add [.new column value o k]
  | addFilterClause c => .add [c]
  | setFilter c => .replace [c]
  | setFilters cs => .replace cs
  | _ => .add []

def onSort : Edit → Change SortKey
  | addSort s => .add [s]
  | setSort s => .replace s
  | _ => .add []

end Edit

namespace Descriptor

variable {α : Type}

/-- A list that each edit changes in some way is changed by a sequence of edits in turn. -/
theorem settles_editAll {list : Descriptor → List α} {change : Edit → Change α}
    (h : ∀ d e, list (d.edit e) = (change e).apply (list d)) (d : Descriptor) (es : List Edit) :
    Change.Settles (list d) (es.map change) (list (d.editAll es)) := by
  have hfold : list (d.editAll es) = (es.map change).foldl Change.apply (list d) := by
    induction es generalizing d with
    | nil => rfl
    | cons e es ih =>
      rw [List.map_cons, List.foldl_cons, ← h]
      exact ih (d.edit e)
  rw [hfold]
  exact Change.settles_foldl (list d) (es.map change)

theorem records_edit (d : Descriptor) (e : Edit) : (d.edit e).records = (Edit.onRecords e).apply d.records := by
  cases e <;> first | rfl | exact (List.append_nil d.records).symm

theorem filters_edit (d : Descriptor) (e : Edit) : (d.edit e).filters = (Edit.onFilters e).apply d.filters := by
  cases e <;> first | rfl | exact (List.append_nil d.filters).symm

theorem sort_edit (d : Descriptor) (e : Edit) : (d.edit e).sort = (Edit.onSort e).apply d.sort := by
  cases e <;> first | rfl | exact (List.append_nil d.sort).symm

/-- Sequences of edits that write each part in the same order make the same
descriptor. Its records, clauses and sort keys are those of the last edit to
replace them, followed by those that were added after it. -/
theorem editAll_order (d : Descriptor) (es : List Edit) :
    (∀ es', (∀ p, Edit.writing p es = Edit.writing p es') → d.editAll es = d.editAll es') ∧
    Change.Settles d.records (es.map Edit.onRecords) (d.editAll es).records ∧
    Change.Settles d.filters (es.map Edit.onFilters) (d.editAll es).filters ∧
    Change.Settles d.sort (es.map Edit.onSort) (d.editAll es).sort :=
  ⟨fun _ h => editAll_congr h d, settles_editAll records_edit d es, settles_editAll filters_edit d es,
    settles_editAll sort_edit d es⟩

/-- Filters replaced in between, a window set in two steps, and the other edits moved past them. -/
theorem editAll_order_interleaved :
    let es : List Edit := [.addFilter "a" .null, .setCap 5, .setFilter .opening, .setBegin 1, .addFilter "b" .null,
      .setScope "t", .setCap 7]
    let es' : List Edit := [.setCap 5, .setScope "t", .addFilter "a" .null, .setCap 7, .setFilter .opening,
      .addFilter "b" .null, .setBegin 1]
    (∀ p, Edit.writing p es = Edit.writing p es') ∧ empty.editAll es = empty.editAll es' ∧
      (empty.editAll es).filters = [.opening, .new "b" .null .eq .and] := by
  intro es es'
  have h : ∀ p, Edit.writing p es = Edit.writing p es' := by
    intro p
    cases p <;> rfl
  exact ⟨h, (editAll_order empty es).1 es' h, rfl⟩

end Descriptor

end RowQuery
