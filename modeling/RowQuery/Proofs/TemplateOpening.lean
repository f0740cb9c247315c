import Mathlib.Order.Bounds.Defs
import RowQuery.Proofs.TemplateSource
/-!
# Where a template breaks

A position of a template is the number of bytes before it. A template is read exactly
when a placeholder starts at every position of a `<%`; otherwise it fails at the first
position where none does, and what stands before that can be read on its own
(`parse_accepts`).
-/

namespace RowQuery

namespace Template

/-- A `<%` stands at the position. -/
def OpensAt (t : String) (position : Nat) : Prop :=
  ∃ front back : String, t = front ++ "<%" ++ back ∧ position = front.utf8ByteSize

/-- A placeholder of that name stands at the position. -/
def PlaceholderAt (t : String) (position : Nat) (name : String) : Prop :=
  ∃ front back : String, t = front ++ back ∧ position = front.utf8ByteSize ∧
    ∃ rest, IsPlaceholder back.toList name.toList rest

/-! ## Positions -/

/-- A position splits a text in one way. -/
theorem append_inj_of_width {cs cs' ds ds' : List Char} (h : cs ++ ds = cs' ++ ds') (hw : width cs = width cs') :
    cs = cs' ∧ ds = ds' := by
  have hnil {xs : List Char} (hx : width xs = 0) : xs = [] := by
    cases xs with
    | nil => rfl
    | cons c xs =>
      have := c.utf8Size_pos
      rw [width] at hx
      omega
  rcases List.append_eq_append_iff.1 h with ⟨xs, rfl, rfl⟩ | ⟨xs, rfl, rfl⟩
  · rw [width_append] at hw
    simp [hnil (by omega : width xs = 0)]
  · rw [width_append] at hw
    simp [hnil (by omega : width xs = 0)]

theorem append_inj_of_utf8ByteSize {front front' back back' : String} (h : front ++ back = front' ++ back')
    (hw : front.utf8ByteSize = front'.utf8ByteSize) : front = front' ∧ back = back' := by
  rw [← String.toList_inj, String.toList_append, String.toList_append] at h
  rw [← width_toList, ← width_toList] at hw
  obtain ⟨hfront, hback⟩ := append_inj_of_width h hw
  exact ⟨String.toList_inj.1 hfront, String.toList_inj.1 hback⟩

theorem toList_open (front back : String) :
    (front ++ "<%" ++ back).toList = front.toList ++ '<' :: '%' :: back.toList := by simp

/-- The positions of `<%` are those of the suffixes that begin with it. -/
theorem eachOpening_iff (P : List Char → Prop) (t : String) :
    EachOpening P t.toList ↔
      ∀ position, OpensAt t position → ∃ name, PlaceholderAt t position name ∧ P name.toList := by
  constructor
  · rintro h position ⟨front, back, rfl, rfl⟩
    rw [toList_open] at h
    obtain ⟨name, rest, hp, hP⟩ := h back.toList (List.suffix_append _ _)
    refine ⟨.ofList name, ⟨front, "<%" ++ back, String.append_assoc, rfl, rest, ?_⟩, ?_⟩
    · simpa using hp
    · rwa [String.toList_ofList]
  · rintro h rest ⟨front, hs⟩
    have ht : t = .ofList front ++ "<%" ++ .ofList rest := by
      apply String.toList_inj.1
      rw [toList_open, String.toList_ofList, String.toList_ofList, hs]
    obtain ⟨name, ⟨front', back, hsplit, hw, rest', hp⟩, hP⟩ := h _ ⟨_, _, ht, rfl⟩
    rw [ht, String.append_assoc] at hsplit
    obtain ⟨-, rfl⟩ := append_inj_of_utf8ByteSize hsplit hw
    refine ⟨name.toList, rest', ?_, hP⟩
    simpa using hp

theorem PlaceholderAt.append {t : String} {position : Nat} {name : String} (h : PlaceholderAt t position name)
    (back : String) : PlaceholderAt (t ++ back) position name := by
  obtain ⟨front, mid, rfl, rfl, rest, before, after, hb, hn, ha, hmid⟩ := h
  refine ⟨front, mid ++ back, String.append_assoc, rfl, rest ++ back.toList, before, after, hb, hn, ha, ?_⟩
  rw [String.toList_append, hmid]
  simp

/-- A `<%` in front of another one stands before it with both its characters. -/
theorem OpensAt.of_append {front back : String} {position : Nat} (h : OpensAt (front ++ "<%" ++ back) position)
    (hlt : position < front.utf8ByteSize) : OpensAt front position := by
  obtain ⟨front', back', ht, rfl⟩ := h
  have hlist := congrArg String.toList ht
  rw [toList_open, toList_open] at hlist
  rw [← width_toList, ← width_toList] at hlt
  rcases List.append_eq_append_iff.1 hlist with ⟨cs, hfront, -⟩ | ⟨cs, hfront, hback⟩
  · rw [hfront, width_append] at hlt
    omega
  · match cs with
    | [] =>
      rw [hfront, List.append_nil] at hlt
      omega
    | [c] => simp at hback
    | c :: c' :: cs =>
      simp only [List.cons_append, List.cons.injEq] at hback
      obtain ⟨rfl, rfl, -⟩ := hback
      refine ⟨front', .ofList cs, String.toList_inj.1 ?_, rfl⟩
      rw [toList_open, String.toList_ofList, hfront]

/-! ## The first broken position -/

theorem indexOf?_eq_none_iff (a b : Char) (cs : List Char) : indexOf? a b cs = none ↔ ¬ [a, b] <:+: cs := by
  induction cs with
  | nil => simp [indexOf?]
  | cons x cs ih =>
    cases cs with
    | nil =>
      simp only [indexOf?, true_iff]
      intro h
      exact absurd h.length_le (by simp)
    | cons y cs =>
      rw [indexOf?, List.infix_cons_iff]
      by_cases hxy : x = a ∧ y = b
      · obtain ⟨rfl, rfl⟩ := hxy
        simp
      · have hp : ¬ [a, b] <+: x :: y :: cs := by
          rintro ⟨rest, h⟩
          simp only [List.cons_append, List.cons.injEq] at h
          exact hxy ⟨h.1.symm, h.2.1.symm⟩
        simp [hxy, hp, ih]

theorem faultAt_eq_neverClosed_iff (back : List Char) :
    faultAt ('<' :: '%' :: back) = .neverClosed ↔ ∃ body, back = '=' :: body ∧ ¬ ['%', '>'] <:+: body := by
  constructor
  · intro h
    unfold faultAt at h
    split at h
    · rename_i body hback
      cases hback
      refine ⟨body, rfl, (indexOf?_eq_none_iff '%' '>' body).1 ?_⟩
      cases hi : indexOf? '%' '>' body with
      | none => rfl
      | some i =>
        rw [hi] at h
        cases ho : indexOf? '<' '%' body with
        | none => simp [ho] at h
        | some j =>
          simp only [ho] at h
          split at h <;> cases h
    · cases h
  · rintro ⟨body, rfl, h⟩
    simp only [faultAt, (indexOf?_eq_none_iff '%' '>' body).2 h]

theorem Fault.reason_eq_neverClosed_iff (f : Fault) : f.reason = "placeholder is never closed" ↔ f = .neverClosed := by
  cases f with
  | neverClosed => exact iff_of_true rfl rfl
  | unknownName name =>
    refine iff_of_false ?_ nofun
    intro h
    -- The two reasons differ in their first letter.
    have hlist : ("unknown placeholder '" ++ name ++ "'").toList = "placeholder is never closed".toList :=
      congrArg String.toList h
    rw [String.toList_append, String.toList_append] at hlist
    have hhead : some 'u' = some 'p' := congrArg List.head? hlist
    cases hhead
  | notExpression | reopened | notOneName => exact iff_of_false (by decide) nofun

/-- A template is read exactly when each of its `<%` starts a placeholder. Otherwise
it fails at the first one that does not: what stands before can be read, and it is
never closed exactly when a `=` follows it and no `%>` comes behind. -/
theorem parse_accepts (t : String) :
    ((∃ segments, parse t = .ok segments) ↔
      ∀ position, OpensAt t position → ∃ name, PlaceholderAt t position name) ∧
    ∀ m, parse t = .error m →
      IsLeast {position | OpensAt t position ∧ ∀ name, ¬ PlaceholderAt t position name} m.position ∧
      ∃ front back, t = front ++ "<%" ++ back ∧ m.position = front.utf8ByteSize ∧
        (∃ segments, parse front = .ok segments) ∧
        (m.fault.reason = "placeholder is never closed" ↔
          ∃ body, back = "=" ++ body ∧ ¬ ['%', '>'] <:+: body.toList) := by
  have hok (t : String) : (∃ segments, parse t = .ok segments) ↔
      ∀ position, OpensAt t position → ∃ name, PlaceholderAt t position name := by
    have h := (segmentsFrom_ok_iff (fun _ => True) 0 t.toList).trans (eachOpening_iff (fun _ => True) t)
    simpa [parse] using h
  refine ⟨hok t, fun m hm => ?_⟩
  obtain ⟨parts, hparts, ⟨rfl, hread⟩ | ⟨back, rfl, hbroken, hread⟩⟩ := parse_cases t
  · cases hread.symm.trans hm
  obtain rfl := Except.error.inj (hm.symm.trans hread)
  have hfront : ∃ segments, parse (source parts) = .ok segments := ⟨_, parse_source hparts⟩
  refine ⟨⟨⟨⟨_, _, rfl, rfl⟩, ?_⟩, ?_⟩, source parts, back, rfl, rfl, hfront, ?_⟩
  · rintro name ⟨front, back', hsplit, hw, rest, hp⟩
    rw [String.append_assoc] at hsplit
    obtain ⟨-, rfl⟩ := append_inj_of_utf8ByteSize hsplit hw
    rw [← placeholder?_eq_some_iff, String.toList_append] at hp
    cases hbroken.symm.trans hp
  · -- A `<%` further in front is one of the text before, and that is read.
    rintro position ⟨hopen, hnone⟩
    by_contra hlt
    obtain ⟨name, hp⟩ := (hok (source parts)).1 hfront position (hopen.of_append (not_le.1 hlt))
    exact hnone name (String.append_assoc ▸ hp.append ("<%" ++ back))
  · rw [Fault.reason_eq_neverClosed_iff, faultAt_eq_neverClosed_iff]
    constructor
    · rintro ⟨body, hback, h⟩
      refine ⟨.ofList body, String.toList_inj.1 ?_, by rwa [String.toList_ofList]⟩
      simp [hback]
    · rintro ⟨body, rfl, h⟩
      exact ⟨body.toList, by simp, h⟩

/-- A placeholder behind a `<`, a text like its end, and a second one that is never closed. -/
theorem parse_accepts_unclosed :
    let t := "é<<%= A %>%><%= B ö"
    parse t = .error ⟨13, .neverClosed⟩ ∧
      IsLeast {position | OpensAt t position ∧ ∀ name, ¬ PlaceholderAt t position name} 13 ∧
      ∃ segments, parse "é<<%= A %>%>" = .ok segments := by
  intro t
  have hparse : parse t = .error ⟨13, .neverClosed⟩ := by decide +kernel
  obtain ⟨hleast, front, back, ht, hw, hfront, -⟩ := (parse_accepts t).2 _ hparse
  have ht : "é<<%= A %>%>" ++ "<%= B ö" = front ++ ("<%" ++ back) := ht.trans String.append_assoc
  obtain ⟨rfl, -⟩ := append_inj_of_utf8ByteSize ht hw
  exact ⟨hparse, hleast, hfront⟩

end Template

end RowQuery
