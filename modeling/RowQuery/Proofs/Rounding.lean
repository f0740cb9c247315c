import Mathlib.Algebra.Order.Ring.Nat
import Mathlib.Tactic.GCongr
import Mathlib.Tactic.Positivity
import RowQuery.Number.Binary64
/-!
# How large a rounded number can be

A quotient below `2 ^ k` is rounded to a number whose exponent field is at most
`k + 1024` (`exponentBits_ofRatio_le`), so only quotients near the end of the
range become infinite. The bound is a binary order wider than it need be, which
is made up for where numbers are divided again and again
(`exponentBits_div_le`).
-/

namespace RowQuery

namespace Binary64

/-! ## Fields -/

theorem exponentBits_le_iff (x : Binary64) (e : Nat) :
    x.exponentBits ≤ e ↔ x.magnitudeBits < (e + 1) * 2 ^ 52 := by
  rw [exponentBits, Nat.shiftRight_eq_div_pow, ← Nat.lt_succ_iff, Nat.div_lt_iff_lt_mul (by decide)]

theorem isFinite_iff (x : Binary64) : x.isFinite ↔ x.exponentBits ≤ 2046 := by
  have h : x.exponentBits ≤ 2047 := by
    rw [exponentBits_le_iff]
    exact Nat.mod_lt _ (by decide)
  simp only [isFinite, bne_iff_ne]
  omega

theorem magnitudeBits_ofMagnitude {m : Nat} (h : m < 2 ^ 63) (negative : Bool) :
    (ofMagnitude negative m).magnitudeBits = m := by
  have hs : (1 <<< 63 : Nat) = 2 ^ 63 := by decide
  simp only [magnitudeBits, ofMagnitude, UInt64.toNat_ofNat', hs]
  split <;> omega

theorem isFinite_neg {x : Binary64} (h : x.isFinite) : x.neg.isFinite := by
  have hm : x.magnitudeBits < 2 ^ 63 := Nat.mod_lt _ (by decide)
  rw [isFinite_iff, exponentBits_le_iff] at h ⊢
  rwa [neg, magnitudeBits_ofMagnitude hm]

/-! ## Rounding -/

theorem roundDiv_le {num den b : Nat} (h : num < den * b) : roundDiv num den ≤ b := by
  have hq : num / den < b := Nat.div_lt_of_lt_mul h
  unfold roundDiv
  grind

/-- In units of `2 ^ q` a quotient has about as many bits as its logarithm leaves above `q`. -/
theorem inUnits_lt {num den : Nat} {q : Int} {b : Nat} (hden : den ≠ 0)
    (h : (num.log2 : Int) + 1 ≤ den.log2 + q + b) :
    (inUnits num den q).1 < (inUnits num den q).2 * 2 ^ b := by
  have hn : num < 2 ^ (num.log2 + 1) := Nat.lt_log2_self
  have hd : 2 ^ den.log2 ≤ den := Nat.log2_self_le hden
  unfold inUnits
  split
  · calc
      num < 2 ^ (num.log2 + 1) := hn
      _ ≤ 2 ^ (den.log2 + q.toNat + b) := Nat.pow_le_pow_right (by decide) (by omega)
      _ = 2 ^ den.log2 * 2 ^ q.toNat * 2 ^ b := by rw [Nat.pow_add, Nat.pow_add]
      _ ≤ den * 2 ^ q.toNat * 2 ^ b := by gcongr
      _ = den <<< q.toNat * 2 ^ b := by rw [Nat.shiftLeft_eq]
  · calc
      num <<< (-q).toNat = num * 2 ^ (-q).toNat := Nat.shiftLeft_eq _ _
      _ < 2 ^ (num.log2 + 1) * 2 ^ (-q).toNat := by gcongr
      _ = 2 ^ (num.log2 + 1 + (-q).toNat) := (Nat.pow_add ..).symm
      _ ≤ 2 ^ (den.log2 + b) := Nat.pow_le_pow_right (by decide) (by omega)
      _ = 2 ^ den.log2 * 2 ^ b := Nat.pow_add ..
      _ ≤ den * 2 ^ b := by gcongr

theorem inUnits_pos {num den : Nat} (q : Int) (hden : den ≠ 0) : 0 < (inUnits num den q).2 := by
  have hpos : 0 < den := Nat.pos_of_ne_zero hden
  unfold inUnits
  split
  · exact Nat.shiftLeft_pos_iff.2 hpos
  · exact hpos

theorem inUnits_unitFor_lt (num : Nat) {den : Nat} (hden : den ≠ 0) :
    (inUnits num den (unitFor num den)).1 < (inUnits num den (unitFor num den)).2 * 2 ^ 53 := by
  unfold unitFor
  dsimp only
  split
  · rename_i hfits
    rw [Nat.mul_comm]
    exact (Nat.div_lt_iff_lt_mul (inUnits_pos _ hden)).1 hfits
  · exact inUnits_lt hden (by omega)

theorem unitFor_le {num den k : Nat} (h : num < den * 2 ^ k) :
    unitFor num den ≤ max ((k : Int) - 52) (-1073) := by
  have hlog : num.log2 ≤ den.log2 + k := by
    by_cases hnum : num = 0
    · simp [hnum]
    · have hlt : num < 2 ^ (den.log2 + 1 + k) := by
        calc
          num < den * 2 ^ k := h
          _ ≤ 2 ^ (den.log2 + 1) * 2 ^ k := by gcongr; exact Nat.lt_log2_self.le
          _ = 2 ^ (den.log2 + 1 + k) := (Nat.pow_add ..).symm
      have := (Nat.log2_lt hnum).2 hlt
      omega
  unfold unitFor
  dsimp only
  split <;> omega

theorem magnitudeOfRatio_lt {num den k : Nat} (hden : den ≠ 0) (h : num < den * 2 ^ k) :
    magnitudeOfRatio num den < (k + 1025) * 2 ^ 52 := by
  have hq := unitFor_le h
  have hm := roundDiv_le (inUnits_unitFor_lt num hden)
  simp only [magnitudeOfRatio, Nat.shiftLeft_eq]
  split <;> omega

theorem exponentBits_ofRatio_le {num den k : Nat} (hden : den ≠ 0) (h : num < den * 2 ^ k)
    (negative : Bool) : (ofRatio negative num den).exponentBits ≤ k + 1024 := by
  have hm : (if num = 0 then 0 else magnitudeOfRatio num den) < (k + 1025) * 2 ^ 52 := by
    split
    · omega
    · exact magnitudeOfRatio_lt hden h
  have hbound : (if num = 0 then 0 else magnitudeOfRatio num den) < 2 ^ 63 := by
    have hmin : magnitudeOfRatio num den ≤ 2047 <<< 52 := Nat.min_le_right _ _
    have hs : (2047 <<< 52 : Nat) < 2 ^ 63 := by decide
    split <;> omega
  rw [exponentBits_le_iff, ofRatio, magnitudeBits_ofMagnitude hbound]
  exact hm

/-- An integer of 64 bits stays far from the end of the range. -/
theorem exponentBits_ofInt_le {n : Int} (h : n.natAbs ≤ 2 ^ 64) : (ofInt n).exponentBits ≤ 1089 :=
  exponentBits_ofRatio_le (k := 65) (by decide) (by omega) _

theorem isFinite_ofInt {n : Int} (h : n.natAbs ≤ 2 ^ 64) : (ofInt n).isFinite := by
  have := exponentBits_ofInt_le h
  rw [isFinite_iff]
  omega

/-! ## Quotients of numbers -/

theorem significand_lt (x : Binary64) : x.significand < 2 ^ 53 := by
  have hf : x.fractionBits < 1 <<< 52 := Nat.mod_lt _ (by decide)
  simp only [Nat.shiftLeft_eq] at hf
  simp only [significand, Nat.shiftLeft_eq]
  split <;> omega

theorem ratio_snd_pos (x : Binary64) : 0 < x.ratio.2 := by
  unfold ratio
  split
  · exact Nat.one_pos
  · exact Nat.shiftLeft_pos_iff.2 (by decide)

theorem ratio_lt {x : Binary64} {k : Nat} (h : x.exponentBits ≤ k + 1022) :
    x.ratio.1 < x.ratio.2 * 2 ^ k := by
  have hs := x.significand_lt
  have he : x.exponent + 53 ≤ k := by
    unfold exponent
    split <;> omega
  unfold ratio
  split
  · calc
      x.significand <<< x.exponent.toNat = x.significand * 2 ^ x.exponent.toNat := Nat.shiftLeft_eq _ _
      _ < 2 ^ 53 * 2 ^ x.exponent.toNat := by gcongr
      _ = 2 ^ (53 + x.exponent.toNat) := (Nat.pow_add ..).symm
      _ ≤ 2 ^ k := Nat.pow_le_pow_right (by decide) (by omega)
      _ = 1 * 2 ^ k := (Nat.one_mul _).symm
  · calc
      x.significand < 2 ^ 53 := hs
      _ ≤ 2 ^ ((-x.exponent).toNat + k) := Nat.pow_le_pow_right (by decide) (by omega)
      _ = 1 <<< (-x.exponent).toNat * 2 ^ k := by rw [Nat.pow_add, Nat.shiftLeft_eq, Nat.one_mul]

/-- Dividing by at least `2 ^ j` takes `j` off the exponent. -/
theorem exponentBits_div_le {x y : Binary64} {j k : Nat} (hx : x.exponentBits ≤ k + j + 1022)
    (hy : y.ratio.2 * 2 ^ j ≤ y.ratio.1) : (x.div y).exponentBits ≤ k + 1024 := by
  have hy₀ : 0 < y.ratio.1 := lt_of_lt_of_le (Nat.mul_pos y.ratio_snd_pos (by positivity)) hy
  have hden : x.ratio.2 * y.ratio.1 ≠ 0 := (Nat.mul_pos x.ratio_snd_pos hy₀).ne'
  refine exponentBits_ofRatio_le hden ?_ _
  have hlt : x.ratio.1 * y.ratio.2 * 2 ^ j < x.ratio.2 * y.ratio.1 * 2 ^ k * 2 ^ j := by
    calc
      x.ratio.1 * y.ratio.2 * 2 ^ j = x.ratio.1 * (y.ratio.2 * 2 ^ j) := Nat.mul_assoc ..
      _ ≤ x.ratio.1 * y.ratio.1 := by gcongr
      _ < x.ratio.2 * 2 ^ (k + j) * y.ratio.1 := by gcongr; exact ratio_lt hx
      _ = x.ratio.2 * y.ratio.1 * 2 ^ k * 2 ^ j := by rw [Nat.pow_add]; ac_rfl
  exact Nat.lt_of_mul_lt_mul_right hlt

end Binary64

end RowQuery
