import RowQuery.Proofs.OperatorText
/-!
# The spellings of operators

An operator reads back from its own text unless it is kept text that could not
have been read: empty, with a blank at an end, or a word for a known operator
(`Operator.Canonical`). Reading gives such an operator from every text, the
same one whatever blanks stand around the text, and for the words of the known
operators whatever the case of their letters (`Operator.parse_normalizes`).
-/

namespace RowQuery

namespace Text

/-- No blank stands at either end. -/
def Trimmed (s : String) : Prop :=
  (∀ c ∈ s.toList.head?, isBlank c = false) ∧ ∀ c ∈ s.toList.getLast?, isBlank c = false

/-- The same text, but for the case of the letters from A to Z. -/
def SameLetters (s t : String) : Prop := s.toLower = t.toLower

/-! ## Blanks at the ends -/

theorem dropWhile_eq_self_iff_head? {p : Char → Bool} {cs : List Char} :
    cs.dropWhile p = cs ↔ ∀ c ∈ cs.head?, p c = false := by
  cases cs with
  | nil => simp
  | cons c cs => simp [List.dropWhile_eq_self_iff]

theorem rdropWhile_eq_self_iff_getLast? {p : Char → Bool} {cs : List Char} :
    cs.rdropWhile p = cs ↔ ∀ c ∈ cs.getLast?, p c = false := by
  rw [List.rdropWhile_eq_self_iff]
  cases cs with
  | nil => simp
  | cons c cs => simp [List.getLast?_eq_some_getLast]

theorem trimChars_eq_self_iff (cs : List Char) :
    trimChars cs = cs ↔ cs.dropWhile isBlank = cs ∧ cs.rdropWhile isBlank = cs := by
  rw [trimChars_eq]
  constructor
  · intro h
    rw [← h]
    exact ⟨dropWhile_rdropWhile (List.dropWhile_idempotent _ _), List.rdropWhile_idempotent _ _⟩
  · rintro ⟨hfront, hback⟩
    rw [hfront, hback]

theorem trim_eq_self_iff (s : String) : trim s = s ↔ Trimmed s := by
  rw [trim, ← String.toList_inj, String.toList_ofList, trimChars_eq_self_iff, dropWhile_eq_self_iff_head?,
    rdropWhile_eq_self_iff_getLast?, Trimmed]

theorem rdropWhile_append_of_pos {p : Char → Bool} {cs after : List Char} (h : ∀ c ∈ after, p c) :
    (cs ++ after).rdropWhile p = cs.rdropWhile p := by
  rw [List.rdropWhile, List.reverse_append, List.dropWhile_append_of_pos (by simpa using h), List.rdropWhile]

theorem trimChars_blanks {before after : List Char} (hb : ∀ c ∈ before, isBlank c) (ha : ∀ c ∈ after, isBlank c)
    (cs : List Char) : trimChars (before ++ cs ++ after) = trimChars cs := by
  rw [trimChars_eq, trimChars_eq, List.append_assoc, List.dropWhile_append_of_pos hb, List.dropWhile_append]
  split
  · -- All of the text is blank, and so is what follows it.
    rename_i hcs
    rw [List.isEmpty_iff.1 hcs, List.dropWhile_eq_nil_iff.2 ha]
  · exact rdropWhile_append_of_pos ha

/-- Blanks around a text are of no account. -/
theorem trim_blanks {before after : String} (hb : ∀ c ∈ before.toList, isBlank c) (ha : ∀ c ∈ after.toList, isBlank c)
    (s : String) : trim (before ++ s ++ after) = trim s := by
  simp only [trim, String.toList_append, trimChars_blanks hb ha]

/-! ## The case of letters -/

theorem toNat_toLower (c : Char) :
    c.toLower.toNat = if 65 ≤ c.toNat ∧ c.toNat ≤ 90 then c.toNat + 32 else c.toNat := by
  have hshift : ('a'.val - 'A'.val).toNat = 32 := rfl
  unfold Char.toLower
  split
  · rename_i h
    have hletter : 65 ≤ c.toNat ∧ c.toNat ≤ 90 := h
    rw [if_pos hletter, Char.toNat, UInt32.toNat_add, hshift, Char.toNat_val]
    omega
  · rename_i h
    exact (if_neg h).symm

theorem toNat_toUpper (c : Char) :
    c.toUpper.toNat = if 97 ≤ c.toNat ∧ c.toNat ≤ 122 then c.toNat - 32 else c.toNat := by
  -- The shift down is an addition that wraps around.
  have hshift : ('A'.val - 'a'.val).toNat = 2 ^ 32 - 32 := rfl
  unfold Char.toUpper
  split
  · rename_i h
    have hletter : 97 ≤ c.toNat ∧ c.toNat ≤ 122 := h
    rw [if_pos hletter, Char.toNat, UInt32.toNat_add, hshift, Char.toNat_val]
    omega
  · rename_i h
    exact (if_neg h).symm

theorem toList_toLower (s : String) : s.toLower.toList = s.toList.map Char.toLower := String.toList_map

theorem toList_toUpper (s : String) : s.toUpper.toList = s.toList.map Char.toUpper := String.toList_map

theorem toUpper_toLower (s : String) : s.toLower.toUpper = s.toUpper := by
  have hchar (c : Char) : c.toLower.toUpper = c.toUpper := by
    rw [← Char.toNat_inj]
    simp only [toNat_toUpper, toNat_toLower]
    split_ifs <;> omega
  rw [← String.toList_inj]
  simp [toList_toUpper, toList_toLower, hchar]

theorem toLower_toUpper (s : String) : s.toUpper.toLower = s.toLower := by
  have hchar (c : Char) : c.toUpper.toLower = c.toLower := by
    rw [← Char.toNat_inj]
    simp only [toNat_toUpper, toNat_toLower]
    split_ifs <;> omega
  rw [← String.toList_inj]
  simp [toList_toUpper, toList_toLower, hchar]

theorem sameLetters_iff {s t : String} : SameLetters s t ↔ s.toUpper = t.toUpper := by
  constructor
  · intro h
    rw [← toUpper_toLower s, h, toUpper_toLower]
  · intro h
    rw [SameLetters, ← toLower_toUpper s, h, toLower_toUpper]

theorem isBlank_toLower (c : Char) : isBlank c.toLower = isBlank c := by
  rw [Bool.eq_iff_iff]
  simp only [isBlank, toNat_toLower, Bool.or_eq_true, Bool.and_eq_true, decide_eq_true_eq, beq_iff_eq]
  split <;> omega

theorem trimChars_map_toLower (cs : List Char) : trimChars (cs.map Char.toLower) = (trimChars cs).map Char.toLower := by
  have hp : isBlank ∘ Char.toLower = isBlank := funext isBlank_toLower
  simp only [trimChars, List.dropWhile_map, ← List.map_reverse, hp]

theorem toLower_trim (s : String) : (trim s).toLower = trim s.toLower := by
  rw [← String.toList_inj]
  simp [trim, toList_toLower, trimChars_map_toLower]

theorem SameLetters.trim {s t : String} (h : SameLetters s t) : SameLetters (trim s) (trim t) := by
  rw [SameLetters, toLower_trim, toLower_trim, h]

end Text

namespace Operator

/-- The words and signs for the known operators. -/
def words : List String :=
  ["=", "==", "!=", "<>", "<", "<=", ">", ">=", "LIKE", "NOT LIKE", "IN", "NOT IN", "IS NULL", "IS NOT NULL",
   "(", ")"]

/-- A word for a known operator, whatever the case of its letters. -/
def IsWord (s : String) : Prop := ∃ w ∈ words, Text.SameLetters s w

/-- A known operator, or kept text that reading would have kept just so. -/
def Canonical : Operator → Prop
  | custom s => s ≠ "" ∧ Text.Trimmed s ∧ ¬ IsWord s
  | _ => True

theorem canonical_of_ne_custom {o : Operator} (h : ∀ s, o ≠ custom s) : o.Canonical := by
  cases o with
  | custom s => exact absurd rfl (h s)
  | _ => trivial

theorem isWord_iff (s : String) : IsWord s ↔ s.toUpper ∈ words := by
  have hcapitals : ∀ w ∈ words, w.toUpper = w := by decide +kernel
  constructor
  · rintro ⟨w, hw, h⟩
    rw [Text.sameLetters_iff.1 h, hcapitals w hw]
    exact hw
  · intro h
    exact ⟨s.toUpper, h, Text.sameLetters_iff.2 (hcapitals _ h).symm⟩

theorem lookup_spellings_eq_none_iff (s : String) : spellings.lookup s.toUpper = none ↔ s ≠ "" ∧ ¬ IsWord s := by
  have hnames : spellings.map (·.1) = "" :: words := rfl
  have hempty : s.toUpper = "" ↔ s = "" := by
    rw [← String.toList_inj, ← String.toList_inj, Text.toList_toUpper]
    simp
  calc
    spellings.lookup s.toUpper = none ↔ s.toUpper ∉ spellings.map (·.1) := by
      simp only [List.lookup_eq_none_iff, bne_iff_ne, List.mem_map, not_exists, not_and]
      exact forall₂_congr fun _ _ => ne_comm
    _ ↔ s ≠ "" ∧ ¬ IsWord s := by rw [hnames, List.mem_cons, not_or, hempty, isWord_iff]

theorem parse_eq_custom_self_iff (s : String) : parse s = custom s ↔ (custom s).Canonical := by
  rw [parse_eq_custom_iff, eq_comm, Text.trim_eq_self_iff, Canonical]
  constructor
  · rintro ⟨htrim, hlookup⟩
    rw [(Text.trim_eq_self_iff s).2 htrim, lookup_spellings_eq_none_iff] at hlookup
    exact ⟨hlookup.1, htrim, hlookup.2⟩
  · rintro ⟨hne, htrim, hword⟩
    rw [(Text.trim_eq_self_iff s).2 htrim, lookup_spellings_eq_none_iff]
    exact ⟨htrim, hne, hword⟩

/-- An operator reads back from its text exactly when it is canonical. -/
theorem parse_text_eq_self_iff_canonical (o : Operator) : parse o.text = o ↔ o.Canonical := by
  by_cases ho : ∃ s, o = custom s
  · obtain ⟨s, rfl⟩ := ho
    exact parse_eq_custom_self_iff s
  · have hne : ∀ s, o ≠ custom s := fun s hs => ho ⟨s, hs⟩
    exact iff_of_true (parse_text_of_ne_custom hne) (canonical_of_ne_custom hne)

theorem parse_blanks {before after : String} (hb : ∀ c ∈ before.toList, Text.isBlank c)
    (ha : ∀ c ∈ after.toList, Text.isBlank c) (s : String) : parse (before ++ s ++ after) = parse s := by
  rw [← parse_trim, Text.trim_blanks hb ha, parse_trim]

/-- The case of its letters makes no difference to a word. -/
theorem parse_sameLetters {s t : String} (hs : IsWord (Text.trim s)) (h : Text.SameLetters s t) : parse s = parse t := by
  have hupper := Text.sameLetters_iff.1 h.trim
  cases hlookup : spellings.lookup (Text.trim s).toUpper with
  | none => exact absurd hs ((lookup_spellings_eq_none_iff _).1 hlookup).2
  | some o => simp [parse, ← hupper, hlookup]

/-- The operators that read back from their own text are the canonical ones, and
every text is read as one of them. Blanks around a text change nothing, nor does
the case of the letters of a word. -/
theorem parse_normalizes :
    (∀ o : Operator, parse o.text = o ↔ o.Canonical) ∧
    (∀ s, (parse s).Canonical ∧ parse (parse s).text = parse s) ∧
    (∀ before s after : String, (∀ c ∈ before.toList, Text.isBlank c) → (∀ c ∈ after.toList, Text.isBlank c) →
      parse (before ++ s ++ after) = parse s) ∧
    ∀ s t, IsWord (Text.trim s) → Text.SameLetters s t → parse s = parse t := by
  refine ⟨parse_text_eq_self_iff_canonical, fun s => ?_, fun before s after hb ha => parse_blanks hb ha s,
    fun s t hs h => parse_sameLetters hs h⟩
  have hback := parse_text_parse s
  exact ⟨(parse_text_eq_self_iff_canonical _).1 hback, hback⟩

/-- A no-break space and an ideographic one around a word in mixed case. -/
theorem parse_normalizes_wide :
    IsWord (Text.trim "Is nOT Null") ∧ Text.SameLetters "Is nOT Null" "IS NOT NULL" ∧
      parse ("\u00a0 " ++ "Is nOT Null" ++ "\u3000") = parse "Is nOT Null" ∧
      parse "Is nOT Null" = parse "IS NOT NULL" ∧ parse "IS NOT NULL" = isNotNull := by
  have hword : IsWord (Text.trim "Is nOT Null") := (isWord_iff _).2 (by decide +kernel)
  have hmixed : "Is nOT Null".toLower = "is not null" := by decide +kernel
  have hcapital : "IS NOT NULL".toLower = "is not null" := by decide +kernel
  have hletters : Text.SameLetters "Is nOT Null" "IS NOT NULL" := hmixed.trans hcapital.symm
  have hbefore : "\u00a0 ".toList.all Text.isBlank := by decide +kernel
  have hafter : "\u3000".toList.all Text.isBlank := by decide +kernel
  have hread : parse "IS NOT NULL" = isNotNull := by decide +kernel
  obtain ⟨-, -, hblanks, hcase⟩ := parse_normalizes
  exact ⟨hword, hletters, hblanks _ _ _ (List.all_eq_true.1 hbefore) (List.all_eq_true.1 hafter),
    hcase _ _ hword hletters, hread⟩

end Operator

end RowQuery
