import Mathlib.Data.List.Infix
import RowQuery.Template
/-!
# Reading what is written

A template is read piece by piece: text without `<%` up to the next placeholder
(`segmentsFrom_placeholder`), or up to the end (`segmentsFrom_plain`). So a
template that is written from texts without `<%` and from placeholders is filled
in by putting each fragment in its place (`render_written`). What the fragments
hold does not matter.
-/

namespace RowQuery

namespace Template

/-! ## Text without `<%` -/

/-- No `<%` occurs in the text. -/
def Plain (cs : List Char) : Prop := ¬ ['<', '%'] <:+: cs

instance (cs : List Char) : Decidable (Plain cs) := inferInstanceAs (Decidable (¬ _))

theorem Plain.tail {c : Char} {cs : List Char} (h : Plain (c :: cs)) : Plain cs :=
  fun hi => h (List.infix_cons hi)

theorem Plain.not_open {c : Char} {cs : List Char} (h : Plain (c :: cs)) :
    ∀ rest, c = '<' → cs = '%' :: rest → False := by
  rintro rest rfl rfl
  exact h ⟨[], rest, rfl⟩

/-- Two texts without `<%` can be joined where none arises in between. -/
theorem Plain.append {cs ds : List Char} (hc : Plain cs) (hd : Plain ds)
    (h : cs.getLast? ≠ some '<' ∨ ds.head? ≠ some '%') : Plain (cs ++ ds) := by
  induction cs with
  | nil => exact hd
  | cons c cs ih =>
    intro hi
    -- A `<%` starts the joined text or lies behind its first character.
    rcases List.infix_cons_iff.1 hi with ⟨rest, hp⟩ | hi
    · simp only [List.cons_append, List.nil_append, List.cons.injEq] at hp
      obtain ⟨rfl, hp⟩ := hp
      cases cs with
      | nil =>
        have hp : '%' :: rest = ds := hp
        rcases h with h | h
        · exact h rfl
        · exact h (by rw [← hp]; rfl)
      | cons x cs =>
        obtain ⟨rfl, -⟩ := List.cons.inj hp
        exact hc.not_open cs rfl rfl
    · refine ih hc.tail ?_ hi
      rcases h with h | h
      · cases cs with
        | nil => exact .inl (by simp)
        | cons x cs => exact .inl (by simpa using h)
      · exact .inr h

theorem cut_plain {cs : List Char} (h : Plain cs) : cut cs = (cs, []) := by
  induction cs with
  | nil => rfl
  | cons c cs ih => rw [cut.eq_3 c cs h.not_open, ih h.tail]

/-- The text before a `<%` is cut off just there, also when it ends in `<`. -/
theorem cut_append_open {cs : List Char} (h : Plain cs) (rest : List Char) :
    cut (cs ++ '<' :: '%' :: rest) = (cs, '<' :: '%' :: rest) := by
  induction cs with
  | nil => rfl
  | cons c cs ih =>
    have hn : ∀ r, c = '<' → cs ++ '<' :: '%' :: rest = '%' :: r → False := by
      rintro r rfl hr
      cases cs with
      | nil => simp at hr
      | cons x cs => exact h.not_open cs rfl (by rw [(List.cons.inj hr).1])
    rw [List.cons_append, cut.eq_3 c _ hn, ih h.tail]

/-! ## Placeholders -/

/-- A name can stand in a placeholder. -/
def IsName (name : List Char) : Prop := name ≠ [] ∧ name.all Text.isNameChar = true

instance (name : List Char) : Decidable (IsName name) := inferInstanceAs (Decidable (_ ∧ _))

theorem isNameChar_of_isBlank {c : Char} (h : isBlank c = true) : Text.isNameChar c = false := by
  simp only [isBlank, Bool.or_eq_true, beq_iff_eq] at h
  rcases h with ((rfl | rfl) | rfl) | rfl <;> decide

theorem takeWhile_stop {p : Char → Bool} {cs rest : List Char} (h : ∀ c ∈ cs, p c = true)
    (hr : ∀ c ∈ rest.head?, p c = false) : (cs ++ rest).takeWhile p = cs := by
  rw [List.takeWhile_append_of_pos h]
  cases rest with
  | nil => simp
  | cons c rest => simp [hr c rfl]

theorem dropWhile_stop {p : Char → Bool} {cs rest : List Char} (h : ∀ c ∈ cs, p c = true)
    (hr : ∀ c ∈ rest.head?, p c = false) : (cs ++ rest).dropWhile p = rest := by
  rw [List.dropWhile_append_of_pos h]
  cases rest with
  | nil => rfl
  | cons c rest => simp [hr c rfl]

/-- A placeholder is read with any blanks around its name. -/
theorem placeholder?_written {before name after : List Char} (hb : ∀ c ∈ before, isBlank c = true)
    (hn : IsName name) (ha : ∀ c ∈ after, isBlank c = true) (rest : List Char) :
    placeholder? ('<' :: '%' :: '=' :: (before ++ (name ++ (after ++ '%' :: '>' :: rest)))) =
      some (name, rest) := by
  obtain ⟨hne, hname⟩ := hn
  rw [List.all_eq_true] at hname
  obtain ⟨c, name, rfl⟩ := List.exists_cons_of_ne_nil hne
  -- The blanks before the name stop at it, for no blank can stand in a name.
  have hc : isBlank c = false := by
    by_contra h
    rw [Bool.not_eq_false] at h
    exact absurd (hname c List.mem_cons_self) (by rw [isNameChar_of_isBlank h]; decide)
  -- The name stops at a blank or at the `%`.
  have hstop : ∀ x ∈ (after ++ '%' :: '>' :: rest).head?, Text.isNameChar x = false := by
    cases after with
    | nil => rintro x ⟨⟩; decide
    | cons y after => rintro x ⟨⟩; exact isNameChar_of_isBlank (ha y List.mem_cons_self)
  have h₁ : (before ++ (c :: name ++ (after ++ '%' :: '>' :: rest))).dropWhile isBlank =
      c :: name ++ (after ++ '%' :: '>' :: rest) := dropWhile_stop hb (by rintro x ⟨⟩; exact hc)
  have h₂ : (after ++ '%' :: '>' :: rest).dropWhile isBlank = '%' :: '>' :: rest :=
    dropWhile_stop ha (by rintro x ⟨⟩; decide)
  simp only [placeholder?, h₁, takeWhile_stop hname hstop, dropWhile_stop hname hstop, h₂]

theorem placeholder?_open {cs name after : List Char} (h : placeholder? cs = some (name, after)) :
    ∃ rest, cs = '<' :: '%' :: rest := by
  unfold placeholder? at h
  split at h
  · exact ⟨_, rfl⟩
  · cases h

/-! ## Segments -/

theorem segmentsFrom_plain (position : Nat) {cs : List Char} (h : Plain cs) :
    segmentsFrom position cs = .ok (textSegment cs) := by
  unfold segmentsFrom
  simp only [cut_plain h, List.isEmpty_nil, if_true]

/-- A text and a placeholder are read off, and reading goes on behind them. -/
theorem segmentsFrom_placeholder (position : Nat) {text cs name after : List Char} (h : Plain text)
    (hp : placeholder? cs = some (name, after)) :
    segmentsFrom position (text ++ cs) =
      (segmentsFrom (position + width text + (width cs - width after)) after).map fun more =>
        textSegment text ++ .placeholder (String.ofList name) (position + width text) :: more := by
  obtain ⟨rest, rfl⟩ := placeholder?_open hp
  rw [segmentsFrom]
  simp only [cut_append_open h, List.isEmpty_cons, Bool.false_eq_true, if_false]
  split
  · rename_i hn
    rw [cut_append_open h, hp] at hn
    cases hn
  · rename_i hs
    rw [cut_append_open h, hp] at hs
    cases hs
    split <;> rename_i he <;> rw [he] <;> rfl

/-! ## Filling in -/

theorem fill_text (f : Fragments String) (cs : List Char) (more : List Segment) :
    fill f (textSegment cs ++ more) = (fill f more).map (String.ofList cs ++ ·) := by
  cases cs with
  | nil =>
    cases h : fill f more <;> simp [textSegment, h, Except.map]
  | cons c cs => rfl

theorem fill_placeholder (f : Fragments String) (n : FragmentName) (position : Nat) (more : List Segment) :
    fill f (.placeholder n.placeholder position :: more) = (fill f more).map (f.get n ++ ·) := by
  rw [fill, FragmentName.ofPlaceholder?_placeholder]

theorem isName_placeholder (n : FragmentName) : IsName n.placeholder.toList := by
  cases n <;> decide

/-- A template made of texts, each in front of a placeholder, and a last text. -/
def written : List (String × FragmentName) → String → String
  | [], last => last
  | (text, n) :: rest, last => text ++ ("<%= " ++ n.placeholder ++ " %>") ++ written rest last

/-- The same texts with the fragments in the places of the placeholders. -/
def filled (f : Fragments String) : List (String × FragmentName) → String → String
  | [], last => last
  | (text, n) :: rest, last => text ++ f.get n ++ filled f rest last

theorem fill_segmentsFrom_written (f : Fragments String) (parts : List (String × FragmentName)) (last : String)
    (hp : ∀ p ∈ parts, Plain p.1.toList) (hl : Plain last.toList) (position : Nat) :
    ∃ segments, segmentsFrom position (written parts last).toList = .ok segments ∧
      fill f segments = .ok (filled f parts last) := by
  -- The position moves on with every part; nothing that is filled in depends on it.
  induction parts generalizing position with
  | nil =>
    refine ⟨_, segmentsFrom_plain position hl, ?_⟩
    have h := fill_text f last.toList []
    rw [List.append_nil, String.ofList_toList] at h
    rw [written, h]
    simp [fill, Except.map, filled]
  | cons p parts ih =>
    obtain ⟨text, n⟩ := p
    obtain ⟨ht, hp⟩ := List.forall_mem_cons.1 hp
    have hblank : ∀ c ∈ [' '], isBlank c = true := List.forall_mem_singleton.2 (by decide)
    have hr := placeholder?_written hblank (isName_placeholder n) hblank (written parts last).toList
    have hw : (written ((text, n) :: parts) last).toList = text.toList ++ '<' :: '%' :: '=' ::
        ([' '] ++ (n.placeholder.toList ++ ([' '] ++ '%' :: '>' :: (written parts last).toList))) := by
      simp [written]
    have hs := segmentsFrom_placeholder position ht hr
    obtain ⟨more, hm, hf⟩ := ih hp (position + width text.toList + (width _ - width (written parts last).toList))
    rw [hm] at hs
    refine ⟨_, by rw [hw, hs]; rfl, ?_⟩
    rw [fill_text, String.ofList_toList, String.ofList_toList, fill_placeholder, hf]
    simp [Except.map, filled, String.append_assoc]

/-- A written template is filled in text by text, whatever the fragments hold. -/
theorem render_written (f : Fragments String) (parts : List (String × FragmentName)) (last : String)
    (hp : ∀ p ∈ parts, Plain p.1.toList) (hl : Plain last.toList) :
    render (written parts last) f = .ok (filled f parts last) := by
  obtain ⟨segments, hs, hf⟩ := fill_segmentsFrom_written f parts last hp hl 0
  simp only [render, parse, hs, hf]

end Template

end RowQuery
