/-
# FacetSearch.Proofs.ExactOrder — decimals compare as the numbers that they are.

A decimal is a sign, a coefficient and a power of ten, and two of them are compared by the places of
their leading digits before anything is multiplied out.  `Decimal.cmp_eq` says that this is the
order of the rational numbers, for all signs, coefficients and exponents, however far apart or
close.
-/
import FacetSearch.Numeric.Decimal
import Mathlib.Data.Rat.Lemmas
import Mathlib.Order.Compare
import Mathlib.Tactic.NormNum

namespace FacetSearch.Decimal

/-- The number `c * 10 ^ e`. -/
def magnitude (c : Nat) (e : Int) : ℚ := c * (10 : ℚ) ^ e

/-- The number that a decimal is. -/
def value (d : Decimal) : ℚ :=
  if d.negative then -magnitude d.coefficient d.exponent else magnitude d.coefficient d.exponent

/-! ## The leading digit -/

theorem magnitude_zero (e : Int) : magnitude 0 e = 0 := by simp [magnitude]

theorem magnitude_pos_iff {c : Nat} {e : Int} : 0 < magnitude c e ↔ 0 < c := by
  have hscale : (0 : ℚ) < (10 : ℚ) ^ e := zpow_pos (by norm_num) e
  rw [magnitude, mul_pos_iff_of_pos_right hscale, Nat.cast_pos]

theorem magnitude_pos {c : Nat} (hc : 0 < c) (e : Int) : 0 < magnitude c e :=
  magnitude_pos_iff.mpr hc

theorem magnitude_not_neg (c : Nat) (e : Int) : ¬ magnitude c e < 0 := by
  rcases Nat.eq_zero_or_pos c with rfl | hc
  · rw [magnitude_zero]
    exact lt_irrefl 0
  · exact not_lt_of_gt (magnitude_pos hc e)

theorem lt_pow_decimalDigits (c : Nat) : c < 10 ^ Binary64.decimalDigits c :=
  (Nat.length_toDigits_le_iff (by decide) Nat.length_toDigits_pos).mp le_rfl

theorem pow_decimalDigits_le {c : Nat} (hc : 0 < c) : 10 ^ (Binary64.decimalDigits c - 1) ≤ c := by
  by_cases hone : Binary64.decimalDigits c - 1 = 0
  · rw [hone]
    omega
  · -- were it less, one digit fewer would do
    by_contra hlt
    have hshort : Binary64.decimalDigits c ≤ Binary64.decimalDigits c - 1 :=
      (Nat.length_toDigits_le_iff (by decide) (by omega)).mpr (by omega)
    omega

/-- The place of the leading digit bounds a magnitude from below and from above. -/
theorem magnitude_bounds {c : Nat} (hc : 0 < c) (e : Int) :
    (10 : ℚ) ^ (e + Binary64.decimalDigits c - 1) ≤ magnitude c e ∧
      magnitude c e < (10 : ℚ) ^ (e + Binary64.decimalDigits c) := by
  have hpos : 0 < Binary64.decimalDigits c := Nat.length_toDigits_pos
  have hscale : (0 : ℚ) < (10 : ℚ) ^ e := zpow_pos (by norm_num) e
  refine ⟨?_, ?_⟩
  · have hlow : ((10 ^ (Binary64.decimalDigits c - 1) : Nat) : ℚ) ≤ c := by
      exact_mod_cast pow_decimalDigits_le hc
    calc (10 : ℚ) ^ (e + Binary64.decimalDigits c - 1)
        = ((10 ^ (Binary64.decimalDigits c - 1) : Nat) : ℚ) * (10 : ℚ) ^ e := by
          rw [Nat.cast_pow, ← zpow_natCast, Nat.cast_ofNat, ← zpow_add₀ (by norm_num)]
          congr 1
          omega
      _ ≤ magnitude c e := mul_le_mul_of_nonneg_right hlow hscale.le
  · have hhigh : (c : ℚ) < ((10 ^ Binary64.decimalDigits c : Nat) : ℚ) := by
      exact_mod_cast lt_pow_decimalDigits c
    calc magnitude c e
        < ((10 ^ Binary64.decimalDigits c : Nat) : ℚ) * (10 : ℚ) ^ e :=
          mul_lt_mul_of_pos_right hhigh hscale
      _ = (10 : ℚ) ^ (e + Binary64.decimalDigits c) := by
          rw [Nat.cast_pow, ← zpow_natCast, Nat.cast_ofNat, ← zpow_add₀ (by norm_num), add_comm]

theorem magnitude_lt_of_lead_lt {c c' : Nat} {e e' : Int} (hc : 0 < c) (hc' : 0 < c')
    (hlead : e + Binary64.decimalDigits c - 1 < e' + Binary64.decimalDigits c' - 1) :
    magnitude c e < magnitude c' e' :=
  calc magnitude c e < (10 : ℚ) ^ (e + Binary64.decimalDigits c) := (magnitude_bounds hc e).2
    _ ≤ (10 : ℚ) ^ (e' + Binary64.decimalDigits c' - 1) :=
        zpow_le_zpow_right₀ (by norm_num) (by omega)
    _ ≤ magnitude c' e' := (magnitude_bounds hc' e').1

/-! ## Comparing -/

/-- Two comparisons agree when they agree on both strict orders. -/
theorem compare_congr {α β : Type*} [LinearOrder α] [LinearOrder β] {a b : α} {x y : β}
    (hlt : a < b ↔ x < y) (hgt : b < a ↔ y < x) : compare a b = compare x y := by
  rcases lt_trichotomy a b with h | h | h
  · rw [compare_lt_iff_lt.mpr h, compare_lt_iff_lt.mpr (hlt.mp h)]
  · subst h
    have hx : x = y := le_antisymm (not_lt.mp fun hyx => lt_irrefl _ (hgt.mpr hyx))
      (not_lt.mp fun hxy => lt_irrefl _ (hlt.mpr hxy))
    rw [compare_eq_iff_eq.mpr rfl, compare_eq_iff_eq.mpr hx]
  · rw [compare_gt_iff_gt.mpr h, compare_gt_iff_gt.mpr (hgt.mp h)]

/-- Shifting to a common exponent multiplies both magnitudes by the same power of ten. -/
theorem magnitude_shift (c : Nat) {e g : Int} (hg : g ≤ e) :
    ((c * Nat.pow 10 (e - g).toNat : Nat) : ℚ) * (10 : ℚ) ^ g = magnitude c e := by
  have hpow : ((Nat.pow 10 (e - g).toNat : Nat) : ℚ) = (10 : ℚ) ^ (e - g) := by
    rw [Nat.pow_eq, Nat.cast_pow, ← zpow_natCast, Int.toNat_of_nonneg (by omega), Nat.cast_ofNat]
  rw [Nat.cast_mul, hpow, mul_assoc, ← zpow_add₀ (by norm_num), Int.sub_add_cancel, magnitude]

theorem compareMagnitudes_eq (c : Nat) (e : Int) (c' : Nat) (e' : Int) :
    compareMagnitudes c e c' e' = compare (magnitude c e) (magnitude c' e') := by
  unfold compareMagnitudes
  by_cases hzero : c = 0 ∨ c' = 0
  · rw [if_pos hzero]
    -- zero is less than exactly the numbers that are not zero, in whatever place their digits stand
    rcases hzero with rfl | rfl
    · rw [magnitude_zero]
      apply compare_congr magnitude_pos_iff.symm
      exact iff_of_false (Nat.not_lt_zero c') (magnitude_not_neg c' e')
    · rw [magnitude_zero]
      apply compare_congr _ magnitude_pos_iff.symm
      exact iff_of_false (Nat.not_lt_zero c) (magnitude_not_neg c e)
  · rw [if_neg hzero]
    have hc : 0 < c := by omega
    have hc' : 0 < c' := by omega
    by_cases hlead : e + Binary64.decimalDigits c - 1 = e' + Binary64.decimalDigits c' - 1
    · -- equal leading places: multiply out to the smaller exponent
      simp only [hlead, ne_eq, not_true_eq_false, if_false]
      have hscale : (0 : ℚ) < (10 : ℚ) ^ min e e' := zpow_pos (by norm_num) _
      rw [← magnitude_shift c (min_le_left e e'), ← magnitude_shift c' (min_le_right e e')]
      apply compare_congr
      · rw [mul_lt_mul_iff_of_pos_right hscale, Nat.cast_lt]
      · rw [mul_lt_mul_iff_of_pos_right hscale, Nat.cast_lt]
    · -- otherwise the leading places decide alone
      simp only [ne_eq, hlead, not_false_eq_true, if_true]
      rcases lt_or_gt_of_ne hlead with hlt | hgt
      · have hmag := magnitude_lt_of_lead_lt hc hc' hlt
        rw [compare_lt_iff_lt.mpr hlt, compare_lt_iff_lt.mpr hmag]
      · have hmag := magnitude_lt_of_lead_lt hc' hc hgt
        rw [compare_gt_iff_gt.mpr hgt, compare_gt_iff_gt.mpr hmag]

theorem swap_compare (x y : ℚ) : (compare x y).swap = compare (-x) (-y) := by
  rcases lt_trichotomy x y with h | h | h
  · rw [compare_lt_iff_lt.mpr h, compare_gt_iff_gt.mpr (neg_lt_neg h)]
    rfl
  · rw [compare_eq_iff_eq.mpr h, compare_eq_iff_eq.mpr (neg_inj.mpr h)]
    rfl
  · rw [compare_gt_iff_gt.mpr h, compare_lt_iff_lt.mpr (neg_lt_neg h)]
    rfl

theorem value_eq_zero {d : Decimal} (hd : d.coefficient = 0) : d.value = 0 := by
  simp [value, hd, magnitude_zero]

theorem value_neg {d : Decimal} (hd : d.coefficient ≠ 0) (hs : d.negative = true) :
    d.value < 0 := by
  simp only [value, hs, if_true]
  exact neg_neg_of_pos (magnitude_pos (Nat.pos_of_ne_zero hd) _)

theorem value_pos {d : Decimal} (hd : d.coefficient ≠ 0) (hs : d.negative = false) :
    0 < d.value := by
  simp only [value, hs, Bool.false_eq_true, if_false]
  exact magnitude_pos (Nat.pos_of_ne_zero hd) _

/-- **Decimals are compared exactly.** -/
theorem cmp_eq (a b : Decimal) : a.cmp b = compare a.value b.value := by
  unfold cmp
  by_cases ha : a.coefficient = 0
  · by_cases hb : b.coefficient = 0
    · simp [ha, hb, value_eq_zero ha, value_eq_zero hb]
    · simp only [ha, hb, and_false, if_false, if_true, value_eq_zero ha]
      cases hs : b.negative with
      | false => exact (compare_lt_iff_lt.mpr (value_pos hb hs)).symm
      | true => exact (compare_gt_iff_gt.mpr (value_neg hb hs)).symm
  · by_cases hb : b.coefficient = 0
    · simp only [ha, hb, false_and, if_false, if_true, value_eq_zero hb]
      cases hs : a.negative with
      | false => exact (compare_gt_iff_gt.mpr (value_pos ha hs)).symm
      | true => exact (compare_lt_iff_lt.mpr (value_neg ha hs)).symm
    · -- two numbers that are not zero: different signs decide, equal ones leave the magnitudes
      simp only [ha, hb, false_and, if_false, compareMagnitudes_eq]
      cases hs : a.negative with
      | false =>
          cases ht : b.negative with
          | false => simp [value, hs, ht]
          | true =>
              have hlt := (value_neg hb ht).trans (value_pos ha hs)
              exact (compare_gt_iff_gt.mpr hlt).symm
      | true =>
          cases ht : b.negative with
          | false =>
              have hlt := (value_neg ha hs).trans (value_pos hb ht)
              exact (compare_lt_iff_lt.mpr hlt).symm
          | true => simp [value, hs, ht, swap_compare]

theorem lt_iff (a b : Decimal) : a.lt b = true ↔ a.value < b.value := by
  rw [lt, cmp_eq, beq_iff_eq, compare_lt_iff_lt]

end FacetSearch.Decimal
