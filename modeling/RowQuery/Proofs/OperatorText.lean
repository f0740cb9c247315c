import Mathlib.Data.List.DropRight
import RowQuery.Connector
import RowQuery.Operator
/-!
# Operators and connectors read back from their text

Each known operator reads back from the text it has in a statement
(`Operator.parse_text_of_ne_custom`). Other text loses its blanks and is then
read the same way every time (`Operator.parse_text_parse`).
-/

namespace RowQuery

namespace Text

theorem trimChars_eq (cs : List Char) :
    trimChars cs = (cs.dropWhile isBlank).rdropWhile isBlank := rfl

/-- Dropping blanks at the end leaves the front as it is. -/
theorem dropWhile_rdropWhile {p : Char → Bool} {cs : List Char} (h : cs.dropWhile p = cs) :
    (cs.rdropWhile p).dropWhile p = cs.rdropWhile p := by
  rw [List.dropWhile_eq_self_iff] at h ⊢
  intro hl
  have hpre := List.rdropWhile_prefix p cs
  rw [hpre.getElem hl]
  exact h (hl.trans_le hpre.length_le)

theorem trimChars_trimChars (cs : List Char) : trimChars (trimChars cs) = trimChars cs := by
  rw [trimChars_eq cs, trimChars_eq, dropWhile_rdropWhile (List.dropWhile_idempotent _ _),
    List.rdropWhile_idempotent]

@[simp] theorem trim_trim (s : String) : trim (trim s) = trim s := by
  simp [trim, trimChars_trimChars]

end Text

namespace Operator

theorem parse_text_of_ne_custom {o : Operator} (h : ∀ s, o ≠ custom s) : parse o.text = o := by
  cases o with
  | custom s => exact absurd rfl (h s)
  | _ => decide +kernel

theorem ne_custom_of_lookup_spellings {k : String} {o : Operator} (h : spellings.lookup k = some o)
    (s : String) : o ≠ custom s := by
  rintro rfl
  obtain ⟨l₁, l₂, hl, -⟩ := List.lookup_eq_some_iff.1 h
  have hm : (k, custom s) ∈ spellings := by simp [hl]
  simp [spellings] at hm

/-- Text stands for itself when, without its blanks and in capitals, it spells no operator. -/
theorem parse_eq_custom_iff (s t : String) :
    parse s = custom t ↔ t = Text.trim s ∧ spellings.lookup (Text.trim s).toUpper = none := by
  unfold parse
  dsimp only
  cases h : spellings.lookup (Text.trim s).toUpper with
  | none => simp [eq_comm]
  | some o => simp [ne_custom_of_lookup_spellings h]

example : parse " is null" = isNull ∧ parse " is  null" = custom "is  null" := by decide +kernel

theorem parse_trim (s : String) : parse (Text.trim s) = parse s := by
  simp only [parse, Text.trim_trim]

/-- What was read from a text reads back from its own. -/
theorem parse_text_parse (s : String) : parse (parse s).text = parse s := by
  by_cases h : ∃ t, parse s = custom t
  · obtain ⟨t, ht⟩ := h
    obtain ⟨rfl, -⟩ := (parse_eq_custom_iff s t).1 ht
    rw [ht, text, parse_trim, ht]
  · exact parse_text_of_ne_custom fun t ht => h ⟨t, ht⟩

/-- The operator that an operator's text reads back as is the operator itself. -/
theorem parse_text_eq_self_iff (o : Operator) :
    parse o.text = o ↔ ∀ s, o = custom s → parse s = custom s := by
  constructor
  · rintro h s rfl
    exact h
  · intro h
    by_cases ho : ∃ s, o = custom s
    · obtain ⟨s, rfl⟩ := ho
      exact h s rfl
    · exact parse_text_of_ne_custom fun s hs => ho ⟨s, hs⟩

end Operator

namespace Connector

@[simp] theorem parse_text (k : Connector) : parse k.text = k := by cases k <;> decide +kernel

end Connector

end RowQuery
