/-
# FacetSearch.Proofs.Overflow — which numbers are too large for a double.

A number is rounded on the grid of its own binade, so what happens at the upper end depends on the
last binade only: its grid ends half a unit above the largest finite double, and a number that
reaches this bound becomes infinity.  `Decimal.isFinite_toBinary64_iff` says so of decimals of every
sign, coefficient and exponent.
-/
import FacetSearch.Proofs.ExactOrder
import Mathlib.Algebra.Order.Field.Power
import Mathlib.Algebra.Ring.Parity
import Mathlib.Tactic.FieldSimp
import Mathlib.Tactic.Linarith
import Mathlib.Tactic.Positivity
import Mathlib.Tactic.Ring

namespace FacetSearch

/-! ## Rounding to a whole number -/

theorem div_le_roundHalfEven (n d : Nat) : n / d ≤ roundHalfEven n d := by
  simp only [roundHalfEven]
  split_ifs <;> omega

theorem roundHalfEven_le (n d : Nat) : roundHalfEven n d ≤ n / d + 1 := by
  simp only [roundHalfEven]
  split_ifs <;> omega

/-- A fraction is rounded below an even number exactly if it is below it by more than one half: a
tie goes up to the even number. -/
theorem roundHalfEven_lt_iff {n d k : Nat} (hd : 0 < d) (hk : Even k) :
    roundHalfEven n d < k ↔ (n : ℚ) / d < k - 1 / 2 := by
  have hd' : (0 : ℚ) < d := by exact_mod_cast hd
  have hcast : (n : ℚ) / d < k - 1 / 2 ↔ 2 * n + d < 2 * (k * d) := by
    rw [div_lt_iff₀ hd', ← Nat.cast_lt (α := ℚ)]
    push_cast
    constructor <;> intro h <;> linarith
  rw [hcast]
  have hn : d * (n / d) + n % d = n := Nat.div_add_mod n d
  have hr : n % d < d := Nat.mod_lt n hd
  have hlow := div_le_roundHalfEven n d
  have hhigh := roundHalfEven_le n d
  rcases lt_trichotomy (n / d + 1) k with hlt | heq | hgt
  · -- more than one below: neither rounding up nor the remainder reaches the number
    have hscaled : (n / d + 2) * d ≤ k * d := Nat.mul_le_mul_right d hlt
    have hexpand : (n / d + 2) * d = d * (n / d) + 2 * d := by ring
    omega
  · -- one below, and odd: the remainder decides
    have hodd : n / d % 2 = 1 := by
      obtain ⟨m, hm⟩ := hk
      omega
    have hscaled : k * d = d * (n / d) + d := by
      rw [← heq]
      ring
    simp only [roundHalfEven, hodd]
    split_ifs <;> omega
  · have hscaled : k * d ≤ n / d * d := Nat.mul_le_mul_right d (by omega)
    have hcomm : n / d * d = d * (n / d) := Nat.mul_comm _ _
    omega

namespace Binary64

/-! ## Fractions -/

/-- The fraction `m * b ^ e`. -/
def scaledFraction (b m : Nat) (e : Int) : Nat × Nat :=
  if 0 ≤ e then (m * Nat.pow b e.toNat, 1) else (m, Nat.pow b (-e).toNat)

theorem dyadic_eq (m : Nat) (e : Int) : dyadic m e = scaledFraction 2 m e := rfl

theorem decadic_eq (c : Nat) (e : Int) : decadic c e = scaledFraction 10 c e := rfl

section Scaled

variable {b m : Nat}

theorem scaledFraction_pos (hb : 0 < b) (hm : 0 < m) (e : Int) :
    0 < (scaledFraction b m e).1 ∧ 0 < (scaledFraction b m e).2 := by
  unfold scaledFraction
  split_ifs
  · exact ⟨Nat.mul_pos hm (Nat.pow_pos hb), Nat.one_pos⟩
  · exact ⟨hm, Nat.pow_pos hb⟩

theorem cast_scaledFraction (e : Int) :
    ((scaledFraction b m e).1 : ℚ) / (scaledFraction b m e).2 = m * (b : ℚ) ^ e := by
  have hpow (i : Nat) : ((Nat.pow b i : Nat) : ℚ) = (b : ℚ) ^ (i : Int) := by
    rw [zpow_natCast]
    exact Nat.cast_pow b i
  unfold scaledFraction
  split_ifs with h
  · rw [Nat.cast_mul, hpow, Int.toNat_of_nonneg h]
    simp
  · rw [hpow, Int.toNat_of_nonneg (by omega), zpow_neg, div_inv_eq_mul]

end Scaled

/-- A power of two that is `k` binades further up. -/
theorem two_zpow_add (k : Nat) (e : Int) : (2 : ℚ) ^ ((k : Int) + e) = 2 ^ k * (2 : ℚ) ^ e := by
  rw [zpow_add₀ two_ne_zero, zpow_natCast]

/-- A power of two as a fraction. -/
theorem cast_dyadic_one (e : Int) :
    ((dyadic 1 e).1 : ℚ) / (dyadic 1 e).2 = (2 : ℚ) ^ e := by
  rw [dyadic_eq, cast_scaledFraction, Nat.cast_one, one_mul]
  rfl

theorem dyadic_one_pos (e : Int) : 0 < (dyadic 1 e).1 ∧ 0 < (dyadic 1 e).2 :=
  scaledFraction_pos (by decide) Nat.one_pos e

/-- Comparing a fraction with a power of two without building it. -/
theorem lt_dyadic_iff {n d : Nat} (hd : 0 < d) (e : Int) :
    n * (dyadic 1 e).2 < d * (dyadic 1 e).1 ↔ (n : ℚ) / d < (2 : ℚ) ^ e := by
  have hd' : (0 : ℚ) < d := by exact_mod_cast hd
  have hb : (0 : ℚ) < (dyadic 1 e).2 := by exact_mod_cast (dyadic_one_pos e).2
  rw [← cast_dyadic_one, div_lt_div_iff₀ hd' hb, mul_comm ((dyadic 1 e).1 : ℚ)]
  exact_mod_cast Iff.rfl

/-- The binary exponent of a fraction is that of the greatest power of two not above it. -/
theorem binaryExponent_bounds {n d : Nat} (hn : 0 < n) (hd : 0 < d) :
    (2 : ℚ) ^ binaryExponent n d ≤ (n : ℚ) / d ∧
      (n : ℚ) / d < (2 : ℚ) ^ (binaryExponent n d + 1) := by
  have hd' : (0 : ℚ) < d := by exact_mod_cast hd
  have hnlow : (2 : ℚ) ^ n.log2 ≤ n := by exact_mod_cast Nat.log2_self_le hn.ne'
  have hnhigh : (n : ℚ) < (2 : ℚ) ^ (n.log2 + 1) := by exact_mod_cast Nat.lt_log2_self
  have hdlow : (2 : ℚ) ^ d.log2 ≤ d := by exact_mod_cast Nat.log2_self_le hd.ne'
  have hdhigh : (d : ℚ) < (2 : ℚ) ^ (d.log2 + 1) := by exact_mod_cast Nat.lt_log2_self
  -- the quotient of the leading powers is off by at most one binade
  have hlow : (2 : ℚ) ^ ((n.log2 : Int) - d.log2 - 1) ≤ (n : ℚ) / d := by
    rw [le_div_iff₀ hd']
    calc (2 : ℚ) ^ ((n.log2 : Int) - d.log2 - 1) * d
        ≤ (2 : ℚ) ^ ((n.log2 : Int) - d.log2 - 1) * (2 : ℚ) ^ (d.log2 + 1) :=
          mul_le_mul_of_nonneg_left hdhigh.le (by positivity)
      _ = (2 : ℚ) ^ n.log2 := by
          rw [mul_comm, ← two_zpow_add, ← zpow_natCast]
          congr 1
          push_cast
          ring
      _ ≤ n := hnlow
  have hhigh : (n : ℚ) / d < (2 : ℚ) ^ ((n.log2 : Int) - d.log2 + 1) := by
    rw [div_lt_iff₀ hd']
    calc (n : ℚ) < (2 : ℚ) ^ (n.log2 + 1) := hnhigh
      _ = (2 : ℚ) ^ ((n.log2 : Int) - d.log2 + 1) * (2 : ℚ) ^ d.log2 := by
          rw [mul_comm, ← two_zpow_add, ← zpow_natCast]
          congr 1
          push_cast
          ring
      _ ≤ (2 : ℚ) ^ ((n.log2 : Int) - d.log2 + 1) * d :=
          mul_le_mul_of_nonneg_left hdlow (by positivity)
  simp only [binaryExponent]
  split_ifs with hbelow
  · rw [lt_dyadic_iff hd] at hbelow
    exact ⟨hlow, by simpa using hbelow⟩
  · rw [lt_dyadic_iff hd] at hbelow
    exact ⟨not_lt.mp hbelow, hhigh⟩

/-! ## The upper end -/

/-- Half a unit above the largest finite double. -/
def overflowBound : ℚ := (2 ^ 54 - 1) * 2 ^ (970 : Int)

theorem lt_overflowBound : (2 : ℚ) ^ (1023 : Int) < overflowBound := by
  have hsplit : (2 : ℚ) ^ (1023 : Int) = 2 ^ 53 * 2 ^ (970 : Int) := two_zpow_add 53 970
  rw [hsplit, overflowBound]
  exact mul_lt_mul_of_pos_right (by norm_num) (by positivity)

theorem overflowBound_lt : overflowBound < (2 : ℚ) ^ (1024 : Int) := by
  have hsplit : (2 : ℚ) ^ (1024 : Int) = 2 ^ 54 * 2 ^ (970 : Int) := two_zpow_add 54 970
  rw [hsplit, overflowBound]
  exact mul_lt_mul_of_pos_right (by norm_num) (by positivity)

/-- The bound on the grid of the last binade: half a unit below its end. -/
theorem overflowBound_eq : overflowBound = ((2 ^ 53 : Nat) - 1 / 2) * (2 : ℚ) ^ (971 : Int) := by
  have hsplit : (2 : ℚ) ^ (971 : Int) = 2 ^ 1 * (2 : ℚ) ^ (970 : Int) := two_zpow_add 1 970
  rw [hsplit, overflowBound, ← mul_assoc]
  congr 1
  norm_num

/-- The mantissa of a fraction on a grid is below an even number exactly if the fraction is, by
more than half a unit of the grid. -/
theorem mantissa_lt_iff {n d k : Nat} (hd : 0 < d) (hk : Even k) (grid : Int) :
    roundHalfEven (n * (dyadic 1 grid).2) (d * (dyadic 1 grid).1) < k ↔
      (n : ℚ) / d < (k - 1 / 2) * (2 : ℚ) ^ grid := by
  obtain ⟨ha, hb⟩ := dyadic_one_pos grid
  have ha' : ((dyadic 1 grid).1 : ℚ) ≠ 0 := by exact_mod_cast ha.ne'
  have hb' : ((dyadic 1 grid).2 : ℚ) ≠ 0 := by exact_mod_cast hb.ne'
  have hd' : (d : ℚ) ≠ 0 := by exact_mod_cast hd.ne'
  have hgrid : (0 : ℚ) < (2 : ℚ) ^ grid := by positivity
  have hscaled : ((n * (dyadic 1 grid).2 : Nat) : ℚ) / (d * (dyadic 1 grid).1 : Nat) =
      (n : ℚ) / d / (2 : ℚ) ^ grid := by
    rw [← cast_dyadic_one]
    push_cast
    field_simp
  rw [roundHalfEven_lt_iff (Nat.mul_pos hd ha) hk, hscaled, div_lt_iff₀ hgrid]

/-- The rank of a fraction is that of a finite number exactly below the bound. -/
theorem rankOfFraction_lt_iff {n d : Nat} (hn : 0 < n) (hd : 0 < d) :
    rankOfFraction n d < infinityRank ↔ (n : ℚ) / d < overflowBound := by
  obtain ⟨hlow, hhigh⟩ := binaryExponent_bounds hn hd
  have hinfinity : infinityRank = 2047 * 4503599627370496 := rfl
  have hbinade : binadeSize = 4503599627370496 := rfl
  simp only [rankOfFraction, hn.ne', if_false, min_lt_iff, lt_irrefl, or_false, hinfinity, hbinade]
  generalize binaryExponent n d = e at hlow hhigh ⊢
  generalize hgrid : max (e - 52) (-1074) = grid
  have hmantissa (k : Nat) (hk : Even k) := mantissa_lt_iff (n := n) hd hk grid
  generalize roundHalfEven (n * (dyadic 1 grid).2) (d * (dyadic 1 grid).1) = m at hmantissa ⊢
  rcases lt_trichotomy e 1023 with hbelow | hlast | habove
  · -- below the last binade: the mantissa is at most that of the next power of two
    have hbound : (n : ℚ) / d < overflowBound := by
      have hpower := zpow_le_zpow_right₀ (one_le_two (α := ℚ)) (show e + 1 ≤ 1023 by omega)
      exact (hhigh.trans_le hpower).trans lt_overflowBound
    have hsmall : m < 2 ^ 53 + 2 := by
      rw [hmantissa _ (by decide)]
      have hnext : e + 1 ≤ (53 : Nat) + grid := by omega
      have hpower := zpow_le_zpow_right₀ (one_le_two (α := ℚ)) hnext
      refine hhigh.trans_le (hpower.trans ?_)
      rw [two_zpow_add]
      exact mul_le_mul_of_nonneg_right (by norm_num) (by positivity)
    refine iff_of_true ?_ hbound
    omega
  · -- in the last binade: its grid ends at the next power of two, where the number is infinite
    obtain rfl : grid = 971 := by omega
    rw [overflowBound_eq, ← hmantissa _ (by decide)]
    omega
  · have hpower := zpow_le_zpow_right₀ (one_le_two (α := ℚ)) (show 1024 ≤ e by omega)
    have hbound : ¬ (n : ℚ) / d < overflowBound :=
      not_lt.mpr ((overflowBound_lt.le.trans hpower).trans hlow)
    have hlarge : ¬ m < 2 ^ 52 := by
      rw [hmantissa _ (by decide), not_lt]
      have hgrid' : e = (52 : Nat) + grid := by omega
      refine le_trans ?_ hlow
      rw [hgrid', two_zpow_add]
      exact mul_le_mul_of_nonneg_right (by norm_num) (by positivity)
    refine iff_of_false ?_ hbound
    omega

theorem overflowBound_lt_pow_ten : overflowBound < (10 : ℚ) ^ (309 : Int) := by
  have hpowers : 2 ^ 1024 ≤ 10 ^ 309 := by decide +kernel
  refine overflowBound_lt.trans_le ?_
  exact_mod_cast hpowers

/-- The rank of a decimal is that of a finite number exactly below the bound. -/
theorem rankOfDecimal_lt_iff (c : Nat) (e : Int) :
    rankOfDecimal c e < infinityRank ↔ Decimal.magnitude c e < overflowBound := by
  have hpositive : (0 : ℚ) < overflowBound := lt_trans (by positivity) lt_overflowBound
  rcases Nat.eq_zero_or_pos c with rfl | hc
  · rw [Decimal.magnitude_zero]
    exact iff_of_true (show 0 < infinityRank by decide) hpositive
  obtain ⟨hlow, hhigh⟩ := Decimal.magnitude_bounds hc e
  simp only [rankOfDecimal, hc.ne', if_false]
  split_ifs with hlarge hsmall
  · have hpower := zpow_le_zpow_right₀ (show (1 : ℚ) ≤ 10 by norm_num)
      (show 309 ≤ e + decimalDigits c - 1 by omega)
    refine iff_of_false (lt_irrefl _) (not_lt.mpr ?_)
    exact (overflowBound_lt_pow_ten.le.trans hpower).trans hlow
  · have hpower := zpow_le_zpow_right₀ (show (1 : ℚ) ≤ 10 by norm_num)
      (show e + decimalDigits c ≤ 0 by omega)
    refine iff_of_true (by decide) ((hhigh.trans_le hpower).trans ?_)
    refine lt_trans ?_ lt_overflowBound
    exact one_lt_zpow₀ one_lt_two (by decide)
  · obtain ⟨hn, hd⟩ := scaledFraction_pos (show 0 < 10 by decide) hc e
    have hvalue : ((decadic c e).1 : ℚ) / (decadic c e).2 = Decimal.magnitude c e := by
      rw [decadic_eq]
      exact cast_scaledFraction e
    rw [← hvalue]
    exact rankOfFraction_lt_iff hn hd

theorem isFinite_ofRank (negative : Bool) (rank : Nat) :
    (ofRank negative rank).isFinite = true ↔ rank < infinityRank := by
  simp [ofRank, isFinite]

end Binary64

/-- **A decimal has a finite double exactly if its size is below the bound**, whatever its digits
and its exponent. -/
theorem Decimal.isFinite_toBinary64_iff (d : Decimal) :
    d.toBinary64.isFinite = true ↔ |d.value| < Binary64.overflowBound := by
  have hsize : |d.value| = magnitude d.coefficient d.exponent := by
    have hnonneg := not_lt.mp (magnitude_not_neg d.coefficient d.exponent)
    rw [value]
    split_ifs
    · rw [abs_neg, abs_of_nonneg hnonneg]
    · exact abs_of_nonneg hnonneg
  rw [toBinary64, Binary64.ofDecimal, Binary64.isFinite_ofRank, Binary64.rankOfDecimal_lt_iff,
    hsize]

end FacetSearch
