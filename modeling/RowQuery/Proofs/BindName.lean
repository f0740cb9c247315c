import Mathlib.Data.List.DropRight
import RowQuery.Statement.Fields
import RowQuery.Statement.Where
/-!
# Bind names are distinct

A field binds `<column>_<index>` and a condition `<parameter>_w<position>`. The
decimal number at the end of such a name and the letter before it can be read
back, whatever text stands in front (`append_number_inj`). So two fields share
a name only if they share column and index, two conditions only if they share
parameter and position, and a field never shares one with a condition.
-/

namespace RowQuery

/-! ## Numbers at the end of a text -/

theorem isDigit_of_mem_number {n : Nat} : ∀ c ∈ Nat.toDigits 10 n, c.isDigit = true :=
  fun _ hc => Nat.isDigit_of_mem_toDigits (by decide) (by decide) hc

theorem number_inj {i j : Nat} (h : Nat.toDigits 10 i = Nat.toDigits 10 j) : i = j := by
  rw [← Nat.ofDigitChars_ten_toDigits (n := i), h, Nat.ofDigitChars_ten_toDigits]

/-- Without the digits at its end, a text with a number is the text before it. -/
theorem rdropWhile_number (s : List Char) {c : Char} (hc : c.isDigit = false) (n : Nat) :
    (s ++ c :: Nat.toDigits 10 n).rdropWhile Char.isDigit = s ++ [c] := by
  have hd : ∀ x ∈ (Nat.toDigits 10 n).reverse, x.isDigit = true := fun x hx =>
    isDigit_of_mem_number x (List.mem_reverse.1 hx)
  rw [List.rdropWhile, List.reverse_append, List.reverse_cons, List.append_assoc,
    List.dropWhile_append_of_pos hd]
  simp [hc]

theorem append_number_inj {s s' : List Char} {c c' : Char} {i j : Nat} (hc : c.isDigit = false)
    (hc' : c'.isDigit = false) (h : s ++ c :: Nat.toDigits 10 i = s' ++ c' :: Nat.toDigits 10 j) :
    s = s' ∧ c = c' ∧ i = j := by
  -- Dropping the digits at the end gives the texts, and cutting the texts off gives the digits.
  have hs : s ++ [c] = s' ++ [c'] := by
    rw [← rdropWhile_number s hc i, h, rdropWhile_number s' hc' j]
  have hn : Nat.toDigits 10 i = Nat.toDigits 10 j := by
    rw [List.append_cons, hs, ← List.append_cons] at h
    exact (List.cons.inj (List.append_cancel_left h)).2
  obtain ⟨hs, hc⟩ := List.append_inj' hs rfl
  exact ⟨hs, (List.cons.inj hc).1, number_inj hn⟩

/-! ## The two families of names -/

theorem Field.toList_bindName (column : String) (index : Nat) :
    (Field.bindName column index).toList = column.toList ++ '_' :: Nat.toDigits 10 index := by
  simp [Field.bindName]

theorem Condition.toList_bindName (c : Condition) (position : Nat) :
    (c.bindName position).toList = (c.parameter.toList ++ ['_']) ++ 'w' :: Nat.toDigits 10 position := by
  simp [Condition.bindName]

theorem Field.bindName_inj {column column' : String} {i j : Nat}
    (h : Field.bindName column i = Field.bindName column' j) : column = column' ∧ i = j := by
  have hl := congrArg String.toList h
  rw [Field.toList_bindName, Field.toList_bindName] at hl
  obtain ⟨hs, -, hn⟩ := append_number_inj (by decide) (by decide) hl
  exact ⟨String.toList_inj.1 hs, hn⟩

theorem Condition.bindName_inj {c c' : Condition} {i j : Nat} (h : c.bindName i = c'.bindName j) :
    c.parameter = c'.parameter ∧ i = j := by
  have hl := congrArg String.toList h
  rw [Condition.toList_bindName, Condition.toList_bindName] at hl
  obtain ⟨hs, -, hn⟩ := append_number_inj (by decide) (by decide) hl
  exact ⟨String.toList_inj.1 (List.append_cancel_right hs), hn⟩

/-- A condition's name has a `w` before its number, a field's an underscore. -/
theorem Field.bindName_ne (column : String) (i : Nat) (c : Condition) (j : Nat) :
    Field.bindName column i ≠ c.bindName j := by
  intro h
  have hl := congrArg String.toList h
  rw [Field.toList_bindName, Condition.toList_bindName] at hl
  obtain ⟨-, hc, -⟩ := append_number_inj (by decide) (by decide) hl
  exact absurd hc (by decide)

end RowQuery
