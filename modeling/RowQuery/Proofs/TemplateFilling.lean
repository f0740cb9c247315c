import Mathlib.Data.List.Forall2
import RowQuery.Proofs.TemplateOpening
/-!
# Filling in

A template is filled in in one pass over its segments: a text stays as it is and a
placeholder becomes its fragment, whatever that holds. There is a result only when
the whole template can be read and each of its names is known; a template that cannot
be read says so even where an unknown name stands further in front (`render_fills`).
-/

namespace RowQuery

/-- The names that a placeholder can have. -/
def FragmentName.names : List String :=
  ["TableName", "FieldList", "Where", "OrderBy", "Limit", "Set", "Columns", "Values"]

theorem FragmentName.mem_names_iff {name : String} : name ∈ names ↔ ∃ n : FragmentName, n.placeholder = name := by
  have hnames : names = all.map placeholder := rfl
  have hall (n : FragmentName) : n ∈ all := by cases n <;> decide
  simp [hnames, hall]

namespace Template

namespace Segment

/-- The text that takes the place of a segment: a text itself, or the fragment of that name. -/
def Becomes (f : Fragments String) : Segment → String → Prop
  | text s, filled => filled = s
  | placeholder name _, filled => ∃ n : FragmentName, n.placeholder = name ∧ filled = f.get n

/-- The fault of a placeholder whose name is none of a fragment. -/
def unknown? : Segment → Option Malformed
  | text _ => none
  | placeholder name position => if name ∈ FragmentName.names then none else some ⟨position, .unknownName name⟩

theorem unknown?_eq_some_iff {x : Segment} {m : Malformed} :
    x.unknown? = some m ↔
      ∃ name position, x = .placeholder name position ∧ name ∉ FragmentName.names ∧
        m = ⟨position, .unknownName name⟩ := by
  cases x with
  | text s => simp [unknown?]
  | placeholder name position => simp [unknown?, eq_comm]

end Segment

/-! ## The first unknown name -/

theorem ofPlaceholder?_of_mem {name : String} (h : name ∈ FragmentName.names) :
    ∃ n, FragmentName.ofPlaceholder? name = some n := by
  obtain ⟨n, rfl⟩ := FragmentName.mem_names_iff.1 h
  exact ⟨n, FragmentName.ofPlaceholder?_placeholder n⟩

theorem ofPlaceholder?_of_not_mem {name : String} (h : name ∉ FragmentName.names) :
    FragmentName.ofPlaceholder? name = none :=
  ofPlaceholder?_eq_none_iff.2 fun n hn => h (FragmentName.mem_names_iff.2 ⟨n, hn⟩)

/-- The fault of segments is that of the first placeholder that has one. -/
theorem unknown?_eq_findSome? (segments : List Segment) : unknown? segments = segments.findSome? Segment.unknown? := by
  induction segments with
  | nil => rfl
  | cons x segments ih =>
    cases x with
    | text s => exact ih
    | placeholder name position =>
      rw [unknown?, List.findSome?_cons, Segment.unknown?]
      by_cases h : name ∈ FragmentName.names
      · obtain ⟨n, hn⟩ := ofPlaceholder?_of_mem h
        simp only [hn, ih, if_pos h]
      · simp only [ofPlaceholder?_of_not_mem h, if_neg h]

theorem findSome?_unknown?_eq_none_iff {segments : List Segment} :
    segments.findSome? Segment.unknown? = none ↔
      ∀ name position, .placeholder name position ∈ segments → name ∈ FragmentName.names := by
  rw [← unknown?_eq_findSome?, unknown?_eq_none_iff]
  simp only [IsKnown, FragmentName.mem_names_iff, String.toList_inj]

/-! ## Filling in segments -/

theorem fill_cons {f : Fragments String} {x : Segment} {filled : String} (h : x.Becomes f filled)
    (segments : List Segment) : fill f (x :: segments) = (fill f segments).map (filled ++ ·) := by
  cases x with
  | text s =>
    cases h
    rfl
  | placeholder name position =>
    obtain ⟨n, rfl, rfl⟩ := h
    exact fill_placeholder f n position segments

theorem fill_of_becomes {f : Fragments String} {segments : List Segment} {texts : List String}
    (h : List.Forall₂ (Segment.Becomes f) segments texts) : fill f segments = .ok (String.join texts) := by
  induction h with
  | nil => rfl
  | cons hx _ ih =>
    rw [fill_cons hx, ih, String.join_cons]
    rfl

/-- Where no name is unknown, each segment becomes a text. -/
theorem exists_becomes {segments : List Segment}
    (h : ∀ name position, .placeholder name position ∈ segments → name ∈ FragmentName.names) (f : Fragments String) :
    ∃ texts, List.Forall₂ (Segment.Becomes f) segments texts := by
  induction segments with
  | nil => exact ⟨[], .nil⟩
  | cons x segments ih =>
    obtain ⟨texts, htexts⟩ := ih fun name position hm => h name position (List.mem_cons_of_mem x hm)
    cases x with
    | text s => exact ⟨s :: texts, .cons rfl htexts⟩
    | placeholder name position =>
      obtain ⟨n, hn⟩ := FragmentName.mem_names_iff.1 (h name position List.mem_cons_self)
      exact ⟨f.get n :: texts, .cons ⟨n, hn, rfl⟩ htexts⟩

/-- Segments are filled in one by one, or the first unknown name among them is the fault. -/
theorem fill_cases (f : Fragments String) (segments : List Segment) :
    (segments.findSome? Segment.unknown? = none ∧
      ∃ texts, List.Forall₂ (Segment.Becomes f) segments texts ∧ fill f segments = .ok (String.join texts)) ∨
    ∃ m, segments.findSome? Segment.unknown? = some m ∧ fill f segments = .error m := by
  cases h : segments.findSome? Segment.unknown? with
  | none =>
    obtain ⟨texts, htexts⟩ := exists_becomes (findSome?_unknown?_eq_none_iff.1 h) f
    exact .inl ⟨rfl, texts, htexts, fill_of_becomes htexts⟩
  | some m => exact .inr ⟨m, rfl, (fill_eq_error_iff f segments m).2 ((unknown?_eq_findSome? segments).trans h)⟩

/-! ## Filling in templates -/

/-- A placeholder that is read stands at its position. -/
theorem placeholderAt_of_parse {t : String} {before after : List Segment} {name : String} {position : Nat}
    (h : parse t = .ok (before ++ .placeholder name position :: after)) : PlaceholderAt t position name := by
  obtain ⟨parts, hparts, rfl, hsplit⟩ := parts_of_parse h
  obtain ⟨front, blanks, blanks', back, -, hpart, -, rfl, ht⟩ := located_eq_append_placeholder hparts.1 hsplit.symm
  refine ⟨source front, (Part.placeholder blanks name blanks').source ++ source back, ?_, rfl,
    (source back).toList, ?_⟩
  · rw [ht, String.append_assoc]
  · rw [String.toList_append]
    exact hpart.isPlaceholder _

theorem render_eq_ok_iff (t : String) (f : Fragments String) (body : String) :
    render t f = .ok body ↔
      ∃ segments texts, parse t = .ok segments ∧ List.Forall₂ (Segment.Becomes f) segments texts ∧
        body = String.join texts := by
  constructor
  · intro h
    unfold render at h
    cases hp : parse t with
    | error e =>
      rw [hp] at h
      cases h
    | ok segments =>
      rw [hp] at h
      rcases fill_cases f segments with ⟨-, texts, htexts, hfill⟩ | ⟨m, -, hfill⟩
      · exact ⟨segments, texts, rfl, htexts, Except.ok.inj (h.symm.trans hfill)⟩
      · cases h.symm.trans hfill
  · rintro ⟨segments, texts, hp, htexts, rfl⟩
    rw [render, hp]
    exact fill_of_becomes htexts

/-- There is nothing wrong with the names of a template that can be filled in. -/
theorem exists_render_iff (t : String) (f : Fragments String) :
    (∃ body, render t f = .ok body) ↔
      ∃ segments, parse t = .ok segments ∧ segments.findSome? Segment.unknown? = none := by
  unfold render
  cases hp : parse t with
  | error e => simp
  | ok segments =>
    rcases fill_cases f segments with ⟨hn, texts, -, hfill⟩ | ⟨m, hs, hfill⟩
    · exact iff_of_true ⟨_, hfill⟩ ⟨segments, rfl, hn⟩
    · refine iff_of_false ?_ ?_
      · rintro ⟨body, h⟩
        cases h.symm.trans hfill
      · rintro ⟨_, ⟨⟩, hn⟩
        cases hn.symm.trans hs

theorem fault?_eq_some_iff_findSome? (t : String) (m : Malformed) :
    fault? t = some m ↔
      parse t = .error m ∨ ∃ segments, parse t = .ok segments ∧ segments.findSome? Segment.unknown? = some m := by
  unfold fault?
  cases parse t with
  | error e => simp
  | ok segments => simp [unknown?_eq_findSome?]

/-- A filled in template is its texts and fragments in their order, each as it is. There
is one exactly when the template can be read and has known names only. A template that
cannot be read fails with what is wrong with it, and one with an unknown name at the
first placeholder that has one. -/
theorem render_fills (t : String) (f : Fragments String) :
    ((∃ body, render t f = .ok body) ↔
      ∃ segments, parse t = .ok segments ∧
        ∀ name position, .placeholder name position ∈ segments → name ∈ FragmentName.names) ∧
    (∀ body, render t f = .ok body ↔
      ∃ segments texts, parse t = .ok segments ∧ List.Forall₂ (Segment.Becomes f) segments texts ∧
        body = String.join texts) ∧
    ∀ m, render t f = .error m ↔
      parse t = .error m ∨
        ∃ before name position after, parse t = .ok (before ++ .placeholder name position :: after) ∧
          (∀ name' position', .placeholder name' position' ∈ before → name' ∈ FragmentName.names) ∧
          name ∉ FragmentName.names ∧ PlaceholderAt t position name ∧ m = ⟨position, .unknownName name⟩ := by
  refine ⟨?_, render_eq_ok_iff t f, fun m => ?_⟩
  · simp only [exists_render_iff, findSome?_unknown?_eq_none_iff]
  rw [render_eq_error_iff, fault?_eq_some_iff_findSome?]
  refine or_congr_right ⟨?_, ?_⟩
  · rintro ⟨segments, hp, hs⟩
    obtain ⟨before, x, after, rfl, hx, hbefore⟩ := List.findSome?_eq_some_iff.1 hs
    obtain ⟨name, position, rfl, hname, rfl⟩ := Segment.unknown?_eq_some_iff.1 hx
    refine ⟨before, name, position, after, hp, ?_, hname, placeholderAt_of_parse hp, rfl⟩
    exact findSome?_unknown?_eq_none_iff.1 (List.findSome?_eq_none_iff.2 hbefore)
  · rintro ⟨before, name, position, after, hp, hbefore, hname, -, rfl⟩
    refine ⟨_, hp, List.findSome?_eq_some_iff.2 ⟨before, _, after, rfl, ?_, ?_⟩⟩
    · exact Segment.unknown?_eq_some_iff.2 ⟨name, position, rfl, hname, rfl⟩
    · exact List.findSome?_eq_none_iff.1 (findSome?_unknown?_eq_none_iff.2 hbefore)

/-- A fragment that holds a placeholder is copied as it is. -/
example : render "<%=Where%> <%= Limit %>" { Fragments.all "" with whereClause := "<%= Limit %>", limit := "%>" } =
    .ok "<%= Limit %> %>" := by decide +kernel

/-- A broken end is reported, and not the unknown name before it. -/
example : render "<%=Nope%><%" (.all "") = .error ⟨9, .notExpression⟩ := by decide +kernel

end Template

end RowQuery
