import Mathlib.Data.List.TakeWhile
import RowQuery.Proofs.TemplateText
/-!
# Which templates are well formed

The reader of templates looks at the `<%` of a text one after the other. It
succeeds exactly when each of them starts a placeholder (`segmentsFrom_ok_iff`):
neither the text between two placeholders nor a placeholder itself can hold a
further `<%` that the reader would miss.

What is wrong with a template is a matter of its text alone: filling it in fails
with `fault?`, whatever the fragments are (`render_eq_error_iff`), and there is a
fault exactly when some `<%` starts no placeholder of a fragment
(`fault?_eq_some_iff`).
-/

namespace RowQuery

namespace Template

/-- A placeholder of that name stands at the start of the text, and `rest` follows it. -/
def IsPlaceholder (cs name rest : List Char) : Prop :=
  ∃ before after, (∀ c ∈ before, isBlank c = true) ∧ IsName name ∧ (∀ c ∈ after, isBlank c = true) ∧
    cs = '<' :: '%' :: '=' :: (before ++ (name ++ (after ++ '%' :: '>' :: rest)))

/-- Every `<%` of the text starts a placeholder, with a name of the given kind. -/
def EachOpening (P : List Char → Prop) (cs : List Char) : Prop :=
  ∀ rest, '<' :: '%' :: rest <:+ cs → ∃ name after, IsPlaceholder ('<' :: '%' :: rest) name after ∧ P name

/-! ## Placeholders -/

/-- What is read as a placeholder is one. -/
theorem isPlaceholder_of_placeholder? {cs name rest : List Char} (h : placeholder? cs = some (name, rest)) :
    IsPlaceholder cs name rest := by
  unfold placeholder? at h
  split at h
  · rename_i body
    dsimp only at h
    split at h
    · rename_i hn ha
      cases h
      refine ⟨body.takeWhile isBlank, ((body.dropWhile isBlank).dropWhile Text.isNameChar).takeWhile isBlank,
        fun _ hc => List.mem_takeWhile_imp hc, ?_, fun _ hc => List.mem_takeWhile_imp hc, ?_⟩
      · exact ⟨by simp [hn], List.all_eq_true.2 fun _ hc => List.mem_takeWhile_imp hc⟩
      · rw [← ha, List.takeWhile_append_dropWhile, List.takeWhile_append_dropWhile,
          List.takeWhile_append_dropWhile]
    · cases h
  · cases h

theorem placeholder?_eq_some_iff {cs name rest : List Char} :
    placeholder? cs = some (name, rest) ↔ IsPlaceholder cs name rest := by
  constructor
  · exact isPlaceholder_of_placeholder?
  · rintro ⟨before, after, hb, hn, ha, rfl⟩
    exact placeholder?_written hb hn ha rest

/-- A text starts one placeholder at most. -/
theorem IsPlaceholder.unique {cs name name' rest rest' : List Char} (h : IsPlaceholder cs name rest)
    (h' : IsPlaceholder cs name' rest') : name = name' ∧ rest = rest' := by
  have hs := placeholder?_eq_some_iff.2 h
  rw [placeholder?_eq_some_iff.2 h', Option.some.injEq, Prod.mk.injEq] at hs
  exact ⟨hs.1.symm, hs.2.symm⟩

/-! ## The places of `<%` -/

theorem plain_of_not_mem {cs : List Char} (h : '<' ∉ cs) : Plain cs := by
  intro hi
  exact h (hi.subset List.mem_cons_self)

/-- Behind a text without `<%`, the `<%` are those of what follows, unless one
arises in between. -/
theorem opening_append {text cs rest : List Char} (ht : Plain text)
    (h : text.getLast? ≠ some '<' ∨ cs.head? ≠ some '%') :
    '<' :: '%' :: rest <:+ text ++ cs ↔ '<' :: '%' :: rest <:+ cs := by
  constructor
  · intro hs
    induction text with
    | nil => exact hs
    | cons c text ih =>
      have hl : text.getLast? ≠ some '<' ∨ cs.head? ≠ some '%' := by
        cases text with
        | nil => exact .inl (by simp)
        | cons x text => simpa using h
      rw [List.cons_append, List.suffix_cons_iff] at hs
      rcases hs with he | hs
      · -- A `<%` at the very front would lie in the text, or start in it and end behind it.
        rw [List.cons.injEq] at he
        obtain ⟨rfl, he⟩ := he
        cases text with
        | nil =>
          rw [List.nil_append] at he
          rcases h with h | h
          · exact absurd rfl h
          · exact absurd (by rw [← he]; rfl) h
        | cons x text =>
          rw [List.cons_append, List.cons.injEq] at he
          exact (ht.not_open text rfl (by rw [← he.1])).elim
      · exact ih ht.tail hl hs
  · exact fun hs => hs.trans (List.suffix_append text cs)

theorem eachOpening_plain (P : List Char → Prop) {cs : List Char} (h : Plain cs) : EachOpening P cs :=
  fun rest hs => absurd (List.IsInfix.trans ⟨[], rest, rfl⟩ hs.isInfix) h

theorem eachOpening_text {P : List Char → Prop} {text rest : List Char} (h : Plain text) :
    EachOpening P (text ++ '<' :: '%' :: rest) ↔ EachOpening P ('<' :: '%' :: rest) := by
  have hj : text.getLast? ≠ some '<' ∨ ('<' :: '%' :: rest).head? ≠ some '%' := .inr (by simp)
  unfold EachOpening
  simp only [opening_append h hj]

/-- A character that is neither a blank nor a letter of a name does not stand between
the `<%=` and the `%>` of a placeholder. -/
theorem not_mem_inside {c : Char} (hblank : isBlank c = false) (hname : Text.isNameChar c = false)
    {before name after : List Char} (hb : ∀ x ∈ before, isBlank x = true) (hn : IsName name)
    (ha : ∀ x ∈ after, isBlank x = true) : c ∉ before ∧ c ∉ name ∧ c ∉ after := by
  refine ⟨fun h => ?_, fun h => ?_, fun h => ?_⟩
  · exact absurd (hb c h) (by simp [hblank])
  · exact absurd (List.all_eq_true.1 hn.2 c h) (by simp [hname])
  · exact absurd (ha c h) (by simp [hblank])

theorem isPlaceholder_body {before name after : List Char} (hb : ∀ c ∈ before, isBlank c = true)
    (hn : IsName name) (ha : ∀ c ∈ after, isBlank c = true) :
    '<' ∉ '%' :: '=' :: (before ++ (name ++ (after ++ ['%', '>']))) := by
  obtain ⟨h₁, h₂, h₃⟩ := not_mem_inside (c := '<') (by decide) (by decide) hb hn ha
  simp [h₁, h₂, h₃]

/-- The `<%` of a text that starts with a placeholder are the one at its start
and those behind the placeholder. -/
theorem eachOpening_placeholder {P : List Char → Prop} {cs name rest : List Char} (h : IsPlaceholder cs name rest) :
    EachOpening P cs ↔ P name ∧ EachOpening P rest := by
  obtain ⟨before, after, hb, hn, ha, hcs⟩ := id h
  have hmid : cs = '<' :: (('%' :: '=' :: (before ++ (name ++ (after ++ ['%', '>'])))) ++ rest) := by
    rw [hcs]; simp
  have hplain := plain_of_not_mem (isPlaceholder_body hb hn ha)
  have hlast : ('%' :: '=' :: (before ++ (name ++ (after ++ ['%', '>'])))).getLast? ≠ some '<' := by
    have hw : '%' :: '=' :: (before ++ (name ++ (after ++ ['%', '>']))) =
        ('%' :: '=' :: (before ++ (name ++ (after ++ ['%'])))) ++ ['>'] := by simp
    rw [hw, List.getLast?_concat]
    decide
  -- The only `<` of a placeholder is its first character.
  have hopen (r : List Char) : '<' :: '%' :: r <:+ cs ↔ '<' :: '%' :: r = cs ∨ '<' :: '%' :: r <:+ rest := by
    rw [hmid, List.suffix_cons_iff, opening_append hplain (.inl hlast)]
  constructor
  · intro he
    refine ⟨?_, fun r hr => he r ((hopen r).2 (.inr hr))⟩
    obtain ⟨name', rest', hp, hP⟩ := he _ ((hopen ('=' :: _)).2 (.inl hcs.symm))
    rw [← hcs] at hp
    exact (h.unique hp).1 ▸ hP
  · rintro ⟨hP, he⟩ r hr
    rcases (hopen r).1 hr with hr | hr
    · exact ⟨name, rest, hr ▸ h, hP⟩
    · exact he r hr

/-! ## Reading -/

theorem plain_cons {c : Char} {cs : List Char} (ho : ¬ ['<', '%'] <+: c :: cs) (h : Plain cs) :
    Plain (c :: cs) :=
  fun hi => (List.infix_cons_iff.1 hi).elim ho h

/-- A text has no `<%`, or a first one. -/
theorem plain_or_opening (cs : List Char) :
    Plain cs ∨ ∃ text rest, Plain text ∧ cs = text ++ '<' :: '%' :: rest := by
  induction cs with
  | nil => exact .inl (plain_of_not_mem (by simp))
  | cons c cs ih =>
    by_cases ho : ['<', '%'] <+: c :: cs
    · obtain ⟨rest, hr⟩ := ho
      exact .inr ⟨[], rest, plain_of_not_mem (by simp), hr.symm⟩
    · rcases ih with h | ⟨text, rest, h, rfl⟩
      · exact .inl (plain_cons ho h)
      · refine .inr ⟨c :: text, rest, plain_cons (fun hp => ho ?_) h, rfl⟩
        exact hp.trans (List.prefix_append (c :: text) _)

/-- A `<%` that starts no placeholder ends the reading. -/
theorem segmentsFrom_broken (position : Nat) {text rest : List Char} (h : Plain text)
    (hp : placeholder? ('<' :: '%' :: rest) = none) :
    segmentsFrom position (text ++ '<' :: '%' :: rest) =
      .error ⟨position + width text, faultAt ('<' :: '%' :: rest)⟩ := by
  rw [segmentsFrom]
  simp only [cut_append_open h, List.isEmpty_cons, Bool.false_eq_true, if_false]
  split
  · rfl
  · rename_i hs
    rw [cut_append_open h, hp] at hs
    cases hs

theorem not_mem_textSegment (name : String) (q : Nat) (cs : List Char) :
    .placeholder name q ∉ textSegment cs := by
  unfold textSegment
  split <;> simp

/-- A text is read up to its next `<%`: there is none, or one that starts no
placeholder, or a placeholder behind which reading goes on. -/
@[elab_as_elim]
theorem reading_induction {motive : List Char → Prop} (plain : ∀ text, Plain text → motive text)
    (broken : ∀ text rest, Plain text → placeholder? ('<' :: '%' :: rest) = none →
      motive (text ++ '<' :: '%' :: rest))
    (placeholder : ∀ text cs name after, Plain text → placeholder? cs = some (name, after) → motive after →
      motive (text ++ cs))
    (cs : List Char) : motive cs := by
  induction hn : cs.length using Nat.strong_induction_on generalizing cs with
  | _ n ih =>
    rcases plain_or_opening cs with h | ⟨text, rest, h, rfl⟩
    · exact plain cs h
    · cases hp : placeholder? ('<' :: '%' :: rest) with
      | none => exact broken text rest h hp
      | some p =>
        obtain ⟨name, after⟩ := p
        have hl := placeholder?_length hp
        refine placeholder text _ name after h hp (ih after.length ?_ after rfl)
        simp only [List.length_append] at hn
        omega

/-- A template is read in full exactly when each of its `<%` starts a
placeholder, and the names read are those that stand there. -/
theorem segmentsFrom_ok_iff (P : List Char → Prop) (position : Nat) (cs : List Char) :
    (∃ segments, segmentsFrom position cs = .ok segments ∧
      ∀ name q, .placeholder name q ∈ segments → P name.toList) ↔ EachOpening P cs := by
  induction cs using reading_induction generalizing position with
  | plain text h =>
    simp only [segmentsFrom_plain position h, eachOpening_plain P h, iff_true]
    exact ⟨_, rfl, fun name q hm => absurd hm (not_mem_textSegment name q text)⟩
  | broken text rest h hp =>
    rw [eachOpening_text h]
    have hb := segmentsFrom_broken position h hp
    constructor
    · rintro ⟨segments, hs, -⟩
      rw [hb] at hs
      cases hs
    · intro he
      obtain ⟨name, after, ho, -⟩ := he rest (List.suffix_refl _)
      rw [placeholder?_eq_some_iff.2 ho] at hp
      cases hp
  | placeholder text cs name after h hp ih =>
    obtain ⟨rest, rfl⟩ := placeholder?_open hp
    have hi := ih (position + width text + (width ('<' :: '%' :: rest) - width after))
    rw [eachOpening_text h, segmentsFrom_placeholder position h hp,
      eachOpening_placeholder (placeholder?_eq_some_iff.1 hp), ← hi]
    -- What is read behind the placeholder decides the rest.
    cases segmentsFrom (position + width text + (width ('<' :: '%' :: rest) - width after)) after with
    | error e => simp [Except.map]
    | ok more => simp [Except.map, not_mem_textSegment, or_imp, forall_and]

/-! ## Faults -/

/-- Some `<%` of the template starts no placeholder, or one that names no fragment. -/
def Broken (template : String) : Prop :=
  ∃ rest, '<' :: '%' :: rest <:+ template.toList ∧
    ((∀ name after, ¬ IsPlaceholder ('<' :: '%' :: rest) name after) ∨
      ∃ name after, IsPlaceholder ('<' :: '%' :: rest) name after ∧ ∀ n : FragmentName, n.placeholder.toList ≠ name)

/-- The first placeholder that names no fragment. -/
def unknown? : List Segment → Option Malformed
  | [] => none
  | .text _ :: rest => unknown? rest
  | .placeholder name position :: rest =>
    match FragmentName.ofPlaceholder? name with
    | none => some ⟨position, .unknownName name⟩
    | some _ => unknown? rest

/-- What is wrong with a template, whatever it is filled with. -/
def fault? (template : String) : Option Malformed :=
  match parse template with
  | .error e => some e
  | .ok segments => unknown? segments

theorem ofPlaceholder?_eq_none_iff {name : String} :
    FragmentName.ofPlaceholder? name = none ↔ ∀ n : FragmentName, n.placeholder ≠ name := by
  constructor
  · rintro h n rfl
    rw [FragmentName.ofPlaceholder?_placeholder] at h
    cases h
  · intro h
    simp [FragmentName.ofPlaceholder?, List.find?_eq_none, h]

/-- The fragments have no say in whether a template can be filled in. -/
theorem fill_eq_error_iff (f : Fragments String) (segments : List Segment) (e : Malformed) :
    fill f segments = .error e ↔ unknown? segments = some e := by
  induction segments with
  | nil => simp [fill, unknown?]
  | cons s segments ih =>
    cases s with
    | text t => rw [fill, unknown?, ← ih]; cases fill f segments <;> simp [Except.map]
    | placeholder name position =>
      rw [fill, unknown?]
      cases FragmentName.ofPlaceholder? name with
      | none => simp
      | some n => dsimp only; rw [← ih]; cases fill f segments <;> simp [Except.map]

theorem render_eq_error_iff (template : String) (f : Fragments String) (e : Malformed) :
    render template f = .error e ↔ fault? template = some e := by
  unfold render fault?
  cases parse template with
  | error e' => simp
  | ok segments => exact fill_eq_error_iff f segments e

/-- The name is that of a fragment. -/
def IsKnown (name : List Char) : Prop := ∃ n : FragmentName, n.placeholder.toList = name

theorem unknown?_eq_none_iff (segments : List Segment) :
    unknown? segments = none ↔ ∀ name q, .placeholder name q ∈ segments → IsKnown name.toList := by
  induction segments with
  | nil => simp [unknown?]
  | cons s segments ih =>
    cases s with
    | text t => simp [unknown?, ih]
    | placeholder name position =>
      rw [unknown?]
      cases h : FragmentName.ofPlaceholder? name with
      | none =>
        rw [ofPlaceholder?_eq_none_iff] at h
        simp only [reduceCtorEq, false_iff]
        intro hk
        obtain ⟨n, hn⟩ := hk name position List.mem_cons_self
        exact h n (String.toList_inj.1 hn)
      | some n =>
        have hn : n.placeholder = name := by simpa using List.find?_some h
        dsimp only
        rw [ih]
        constructor
        · intro hk name' q hm
          rcases List.mem_cons.1 hm with hm | hm
          · cases hm
            exact ⟨n, congrArg String.toList hn⟩
          · exact hk name' q hm
        · exact fun hk name' q hm => hk name' q (List.mem_cons_of_mem _ hm)

theorem fault?_eq_none_iff (template : String) :
    fault? template = none ↔ EachOpening IsKnown template.toList := by
  rw [← segmentsFrom_ok_iff IsKnown 0, fault?, parse]
  cases segmentsFrom 0 template.toList with
  | error e => simp
  | ok segments => simp [unknown?_eq_none_iff]

theorem broken_iff (template : String) : Broken template ↔ ¬ EachOpening IsKnown template.toList := by
  simp only [Broken, EachOpening, not_forall]
  constructor
  · rintro ⟨rest, hs, h⟩
    refine ⟨rest, hs, fun ⟨name, after, hp, n, hn⟩ => ?_⟩
    rcases h with h | ⟨name', after', hp', h⟩
    · exact h name after hp
    · exact h n (hn.trans (hp.unique hp').1)
  · rintro ⟨rest, hs, h⟩
    refine ⟨rest, hs, ?_⟩
    by_cases hp : ∃ name after, IsPlaceholder ('<' :: '%' :: rest) name after
    · obtain ⟨name, after, hp⟩ := hp
      exact .inr ⟨name, after, hp, fun n hn => h ⟨name, after, hp, n, hn⟩⟩
    · exact .inl fun name after hp' => hp ⟨name, after, hp'⟩

/-- A template has a fault exactly when it is broken. -/
theorem fault?_eq_some_iff (template : String) : (∃ e, fault? template = some e) ↔ Broken template := by
  rw [broken_iff, ← fault?_eq_none_iff, ← Option.isSome_iff_exists, Option.isSome_iff_ne_none]

end Template

end RowQuery
