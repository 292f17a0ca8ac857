/-
# FacetSearch.Proofs.Rounding — rounding to a double keeps the order.

A number is rounded on the grid of its own binade, and the grids get coarser upwards; no number
overtakes another on the way.  A number that is a double already stays where it is.  So the double
of a decimal, infinite ones included, moves no price past any double, however many digits the price
has and whatever its exponent is.
-/
import FacetSearch.Proofs.ExactRank
import Mathlib.Data.EReal.Operations

namespace FacetSearch

/-! ## Rounding to a whole number -/

theorem roundHalfEven_mono {n n' : Nat} (h : n ≤ n') (d : Nat) :
    roundHalfEven n d ≤ roundHalfEven n' d := by
  have hquotient : n / d ≤ n' / d := Nat.div_le_div_right h
  rcases Nat.lt_or_eq_of_le hquotient with hlt | heq
  · exact (roundHalfEven_le n d).trans (hlt.trans_le (div_le_roundHalfEven n' d))
  · -- between the same two whole numbers the remainders decide
    have hn : d * (n / d) + n % d = n := Nat.div_add_mod n d
    have hn' : d * (n' / d) + n' % d = n' := Nat.div_add_mod n' d
    rw [← heq] at hn'
    simp only [roundHalfEven, ← heq]
    split_ifs <;> omega

theorem roundHalfEven_le_of_mul_le {n d n' d' : Nat} (hd : 0 < d) (hd' : 0 < d')
    (h : n * d' ≤ n' * d) : roundHalfEven n d ≤ roundHalfEven n' d' :=
  calc roundHalfEven n d = roundHalfEven (d' * n) (d' * d) := (roundHalfEven_mul_left hd' n d).symm
    _ ≤ roundHalfEven (d * n') (d' * d) := by
        apply roundHalfEven_mono
        rwa [Nat.mul_comm d' n, Nat.mul_comm d n']
    _ = roundHalfEven n' d' := by rw [Nat.mul_comm d' d, roundHalfEven_mul_left hd]

namespace Binary64

/-! ## Ranks of fractions -/

/-- The mantissa of a fraction on the grid of the multiples of `2 ^ grid`. -/
def mantissaOn (grid : Int) (n d : Nat) : Nat :=
  roundHalfEven (n * (dyadic 1 grid).2) (d * (dyadic 1 grid).1)

/-- The grid on which a fraction is rounded. -/
def gridOf (n d : Nat) : Int := max (binaryExponent n d - 52) (-1074)

theorem rankOfFraction_eq {n : Nat} (hn : 0 < n) (d : Nat) :
    rankOfFraction n d =
      min ((gridOf n d + 1074).toNat * binadeSize + mantissaOn (gridOf n d) n d) infinityRank := by
  rw [rankOfFraction, if_neg hn.ne']
  rfl

theorem mantissaOn_mono {n d n' d' : Nat} (hd : 0 < d) (hd' : 0 < d')
    (h : (n : ℚ) / d ≤ (n' : ℚ) / d') (grid : Int) :
    mantissaOn grid n d ≤ mantissaOn grid n' d' := by
  obtain ⟨ha, hb⟩ := dyadic_one_pos grid
  have hcross : n * d' ≤ n' * d := by
    have hd0 : (0 : ℚ) < d := by exact_mod_cast hd
    have hd0' : (0 : ℚ) < d' := by exact_mod_cast hd'
    exact_mod_cast (div_le_div_iff₀ hd0 hd0').mp h
  apply roundHalfEven_le_of_mul_le (Nat.mul_pos hd ha) (Nat.mul_pos hd' ha)
  rw [Nat.mul_mul_mul_comm, Nat.mul_mul_mul_comm n']
  exact Nat.mul_le_mul_right _ hcross

/-- A whole number of steps of the grid stays as it is. -/
theorem mantissaOn_dyadic {k : Nat} (hk : 0 < k) (grid : Int) :
    mantissaOn grid (dyadic k grid).1 (dyadic k grid).2 = k := by
  obtain ⟨-, hd⟩ := scaledFraction_pos (show 0 < 2 by decide) hk grid
  rw [mantissaOn, dyadic_scale]
  exact roundHalfEven_mul_self (Nat.mul_pos hd (dyadic_one_pos grid).1) k

section Steps

variable {n d k : Nat} (hd : 0 < d) (hk : 0 < k) {grid : Int}
include hd hk

/-- A fraction below a whole number of steps of the grid is not rounded above it. -/
theorem mantissaOn_le (h : (n : ℚ) / d ≤ k * (2 : ℚ) ^ grid) : mantissaOn grid n d ≤ k := by
  obtain ⟨-, hd'⟩ := scaledFraction_pos (show 0 < 2 by decide) hk grid
  rw [← mantissaOn_dyadic hk grid]
  apply mantissaOn_mono hd hd'
  rw [dyadic_eq, cast_scaledFraction]
  exact h

/-- A fraction above a whole number of steps of the grid is not rounded below it. -/
theorem le_mantissaOn (h : k * (2 : ℚ) ^ grid ≤ (n : ℚ) / d) : k ≤ mantissaOn grid n d := by
  obtain ⟨-, hd'⟩ := scaledFraction_pos (show 0 < 2 by decide) hk grid
  rw [← mantissaOn_dyadic hk grid]
  apply mantissaOn_mono hd' hd
  rw [dyadic_eq, cast_scaledFraction]
  exact h

end Steps

/-- **Rounding keeps the order of fractions.** -/
theorem rankOfFraction_mono {n d n' d' : Nat} (hn : 0 < n) (hd : 0 < d) (hn' : 0 < n')
    (hd' : 0 < d') (h : (n : ℚ) / d ≤ (n' : ℚ) / d') :
    rankOfFraction n d ≤ rankOfFraction n' d' := by
  obtain ⟨hlow, hhigh⟩ := binaryExponent_bounds hn hd
  obtain ⟨hlow', hhigh'⟩ := binaryExponent_bounds hn' hd'
  have hexponent : binaryExponent n d < binaryExponent n' d' + 1 :=
    (zpow_lt_zpow_iff_right₀ one_lt_two).mp ((hlow.trans h).trans_lt hhigh')
  have hgrid : gridOf n d ≤ gridOf n' d' := by
    unfold gridOf
    omega
  rw [rankOfFraction_eq hn, rankOfFraction_eq hn']
  apply min_le_min_right
  rcases hgrid.lt_or_eq with hlt | heq
  · -- the coarser grid begins where the finer one ends: half way up the mantissas of the coarser
    have hfine : mantissaOn (gridOf n d) n d ≤ 2 ^ 53 := by
      apply mantissaOn_le hd (by decide)
      have hnext : binaryExponent n d + 1 ≤ (53 : Nat) + gridOf n d := by
        unfold gridOf
        omega
      have hpower := hhigh.le.trans (zpow_le_zpow_right₀ one_le_two hnext)
      rw [two_zpow_add] at hpower
      exact_mod_cast hpower
    have hcoarse : 2 ^ 52 ≤ mantissaOn (gridOf n' d') n' d' := by
      apply le_mantissaOn hd' (by decide)
      have hsame : binaryExponent n' d' = (52 : Nat) + gridOf n' d' := by
        unfold gridOf at hlt ⊢
        omega
      rw [hsame, two_zpow_add] at hlow'
      exact_mod_cast hlow'
    have hleast : -1074 ≤ gridOf n d := le_max_right _ _
    unfold binadeSize
    omega
  · rw [← heq]
    exact Nat.add_le_add_left (mantissaOn_mono hd hd' h _) _

theorem rankOfFraction_le (n d : Nat) : rankOfFraction n d ≤ infinityRank := by
  rcases Nat.eq_zero_or_pos n with rfl | hn
  · exact Nat.zero_le _
  · rw [rankOfFraction_eq hn]
    exact min_le_right _ _

/-! ## Ranks of decimals -/

theorem rankOfDecimal_le (c : Nat) (e : Int) : rankOfDecimal c e ≤ infinityRank := by
  simp only [rankOfDecimal]
  split_ifs
  · exact Nat.zero_le _
  · exact le_rfl
  · exact Nat.zero_le _
  · exact rankOfFraction_le _ _

/-- **Rounding keeps the order of decimals**, also of those too large or too small for a double. -/
theorem rankOfDecimal_mono {c c' : Nat} {e e' : Int}
    (h : Decimal.magnitude c e ≤ Decimal.magnitude c' e') :
    rankOfDecimal c e ≤ rankOfDecimal c' e' := by
  rcases Nat.eq_zero_or_pos c with rfl | hc
  · rw [rankOfDecimal, if_pos rfl]
    exact Nat.zero_le _
  have hc' : 0 < c' := Decimal.magnitude_pos_iff.mp ((Decimal.magnitude_pos hc e).trans_le h)
  have hlead : e + decimalDigits c - 1 ≤ e' + decimalDigits c' - 1 := by
    by_contra hgt
    exact absurd h (Decimal.magnitude_lt_of_lead_lt hc' hc (not_le.mp hgt)).not_ge
  by_cases hlarge : 308 < e' + decimalDigits c' - 1
  · have hrank : rankOfDecimal c' e' = infinityRank := by
      simp only [rankOfDecimal, hc'.ne', if_false, hlarge, if_true]
    rw [hrank]
    exact rankOfDecimal_le c e
  have hnotLarge : ¬ 308 < e + decimalDigits c - 1 := by omega
  by_cases hsmall : e + decimalDigits c - 1 < -324
  · have hrank : rankOfDecimal c e = 0 := by
      simp only [rankOfDecimal, hc.ne', if_false, hnotLarge, hsmall, if_true]
    rw [hrank]
    exact Nat.zero_le _
  have hnotSmall : ¬ e' + decimalDigits c' - 1 < -324 := by omega
  obtain ⟨hn, hd⟩ := scaledFraction_pos (show 0 < 10 by decide) hc e
  obtain ⟨hn', hd'⟩ := scaledFraction_pos (show 0 < 10 by decide) hc' e'
  simp only [rankOfDecimal, hc.ne', hc'.ne', if_false, hnotLarge, hlarge, hsmall, hnotSmall]
  apply rankOfFraction_mono hn hd hn' hd'
  rw [← decadic_eq, ← decadic_eq, cast_decadic, cast_decadic]
  exact h

/-! ## Finite ranks -/

theorem rankValue_zero : rankValue 0 = 0 := by
  simp [rankValue, mantissaOf, binadeSize]

/-- The numbers of the finite ranks stand in the order of the ranks, since rounding keeps the order
and each of them is rounded to itself. -/
theorem rankValue_lt_of_lt {rank rank' : Nat} (h : rank < rank') (hfinite : rank' < infinityRank) :
    rankValue rank < rankValue rank' := by
  have hpos' : 0 < rank' := by omega
  by_contra hle
  have hvalue : rankValue rank' ≤ rankValue rank := not_lt.mp hle
  have hpositive : 0 < rankValue rank' :=
    mul_pos (by exact_mod_cast mantissaOf_pos hpos') (zpow_pos two_pos _)
  have hpos : 0 < rank := by
    rw [Nat.pos_iff_ne_zero]
    rintro rfl
    exact absurd (hpositive.trans_le hvalue) rankValue_zero.not_gt
  obtain ⟨hn, hd⟩ := scaledFraction_pos (show 0 < 2 by decide) (mantissaOf_pos hpos)
    (exponentOf rank)
  obtain ⟨hn', hd'⟩ := scaledFraction_pos (show 0 < 2 by decide) (mantissaOf_pos hpos')
    (exponentOf rank')
  have hrank : rank' ≤ rank := by
    rw [← rankOfFraction_fractionOf (h.trans hfinite), ← rankOfFraction_fractionOf hfinite]
    apply rankOfFraction_mono hn' hd' hn hd
    rw [← cast_fractionOf, ← cast_fractionOf] at hvalue
    exact hvalue
  omega

/-- The number of a finite rank is rounded to this rank, in whatever digits it is given. -/
theorem rankOfDecimal_of_finite {rank : Nat} (h : rank < infinityRank) {c : Nat} {e : Int}
    (hvalue : Decimal.magnitude c e = rankValue rank) : rankOfDecimal c e = rank := by
  rcases Nat.eq_zero_or_pos rank with rfl | hpos
  · have hzero : Decimal.magnitude c e = 0 := by
      rw [hvalue]
      simp [rankValue, mantissaOf, binadeSize]
    have hc : c = 0 := by
      by_contra hc
      exact absurd hzero (Decimal.magnitude_pos (Nat.pos_of_ne_zero hc) e).ne'
    rw [rankOfDecimal, if_pos hc]
  · exact rankOfDecimal_of_rankValue hpos h hvalue

/-! ## The number line -/

/-- The magnitude of a rank: a rational number, or infinity. -/
noncomputable def rankNumber (rank : Nat) : EReal :=
  if rank < infinityRank then ((rankValue rank : ℚ) : ℝ) else ⊤

/-- The number of a sign and a magnitude. -/
noncomputable def signed (negative : Bool) (m : EReal) : EReal := if negative then -m else m

/-- The number that a double is, an infinite one included; not-a-number is none. -/
noncomputable def toEReal? : Binary64 → Option EReal
  | .number negative rank => some (signed negative (rankNumber rank.val))
  | .nan => none

theorem rankNumber_of_finite {rank : Nat} (h : rank < infinityRank) :
    rankNumber rank = ((rankValue rank : ℚ) : ℝ) := if_pos h

theorem rankNumber_zero : rankNumber 0 = 0 := by
  rw [rankNumber_of_finite (by decide), rankValue_zero, Rat.cast_zero, EReal.coe_zero]

theorem rankNumber_mono {rank rank' : Nat} (h : rank ≤ rank') :
    rankNumber rank ≤ rankNumber rank' := by
  by_cases hfinite : rank' < infinityRank
  · rw [rankNumber_of_finite hfinite, rankNumber_of_finite (h.trans_lt hfinite),
      EReal.coe_le_coe_iff, Rat.cast_le]
    rcases h.lt_or_eq with hlt | rfl
    · exact (rankValue_lt_of_lt hlt hfinite).le
    · exact le_rfl
  · rw [rankNumber, rankNumber, if_neg hfinite]
    exact le_top

theorem rankNumber_nonneg (rank : Nat) : 0 ≤ rankNumber rank := by
  rw [← rankNumber_zero]
  exact rankNumber_mono (Nat.zero_le rank)

end Binary64

namespace Decimal

open Binary64

/-- The number that a decimal is. -/
noncomputable def toEReal (d : Decimal) : EReal := ((d.value : ℚ) : ℝ)

/-- The number of the nearest double. -/
noncomputable def rounded (d : Decimal) : EReal :=
  signed d.negative (rankNumber (rankOfDecimal d.coefficient d.exponent))

theorem toEReal_le_iff {a b : Decimal} : a.toEReal ≤ b.toEReal ↔ a.value ≤ b.value := by
  rw [toEReal, toEReal, EReal.coe_le_coe_iff, Rat.cast_le]

theorem toEReal?_toBinary64 (d : Decimal) : d.toBinary64.toEReal? = some d.rounded := by
  have hrank : min (rankOfDecimal d.coefficient d.exponent) infinityRank =
      rankOfDecimal d.coefficient d.exponent := min_eq_left (rankOfDecimal_le _ _)
  simp only [toBinary64, Binary64.ofDecimal, ofRank, Binary64.toEReal?, hrank, rounded]

/-- **Rounding keeps the order**, signs and infinities included. -/
theorem rounded_mono {a b : Decimal} (h : a.value ≤ b.value) : a.rounded ≤ b.rounded := by
  have hnonneg (d : Decimal) : 0 ≤ magnitude d.coefficient d.exponent :=
    not_lt.mp (magnitude_not_neg _ _)
  have hzero {d : Decimal} (hd : magnitude d.coefficient d.exponent ≤ 0) :
      rankNumber (rankOfDecimal d.coefficient d.exponent) = 0 := by
    have hvalue := (hd.antisymm (hnonneg d)).trans rankValue_zero.symm
    rw [rankOfDecimal_of_finite (by decide) hvalue, rankNumber_zero]
  unfold value at h
  unfold rounded signed
  cases ha : a.negative <;> cases hb : b.negative <;>
    simp only [ha, hb, Bool.false_eq_true, if_true, if_false] at h ⊢
  · exact rankNumber_mono (rankOfDecimal_mono h)
  · -- not below zero and not above it: both are zero
    rw [hzero (h.trans (neg_nonpos.mpr (hnonneg b))),
      hzero (neg_nonneg.mp ((hnonneg a).trans h)), neg_zero]
  · exact (EReal.neg_le_zero.mpr (rankNumber_nonneg _)).trans (rankNumber_nonneg _)
  · exact EReal.neg_le_neg_iff.mpr (rankNumber_mono (rankOfDecimal_mono (neg_le_neg_iff.mp h)))

/-- The exact expansion of a power of two times a whole number. -/
theorem magnitude_ofDyadic (negative : Bool) (m : Nat) (e : Int) :
    magnitude (ofDyadic negative m e).coefficient (ofDyadic negative m e).exponent =
      m * (2 : ℚ) ^ e := by
  unfold ofDyadic
  split_ifs with he
  · exact magnitude_whole m he
  · exact magnitude_below_point m he

/-- **A double is a decimal that is rounded to itself.** -/
theorem exists_eq_double {x : Binary64} {n : EReal} (hx : x.toEReal? = some n) (htop : n ≠ ⊤)
    (hbot : n ≠ ⊥) : ∃ d : Decimal, d.toEReal = n ∧ d.rounded = n := by
  cases x with
  | nan => exact absurd hx nofun
  | number negative rank =>
      obtain rfl := Option.some.inj hx
      have hfinite : rank.val < infinityRank := by
        by_contra hinfinite
        rw [rankNumber, if_neg hinfinite] at htop hbot
        cases negative with
        | false => exact htop rfl
        | true => exact hbot EReal.neg_top
      have hmagnitude := magnitude_ofDyadic negative (mantissaOf rank.val) (exponentOf rank.val)
      have hsign : (ofDyadic negative (mantissaOf rank.val) (exponentOf rank.val)).negative =
          negative := by
        unfold ofDyadic
        split_ifs <;> rfl
      refine ⟨ofDyadic negative (mantissaOf rank.val) (exponentOf rank.val), ?_, ?_⟩
      · rw [toEReal, value, hsign, hmagnitude, rankNumber_of_finite hfinite]
        cases negative with
        | false => rfl
        | true => simp [signed, rankValue]
      · rw [rounded, hsign, rankOfDecimal_of_finite hfinite hmagnitude]

section Doubles

variable {x : Binary64} {n : EReal} (hx : x.toEReal? = some n) {d : Decimal}
include hx

/-- No number is rounded above a double that it does not exceed. -/
theorem rounded_le_of_le (h : d.toEReal ≤ n) : d.rounded ≤ n := by
  by_cases htop : n = ⊤
  · rw [htop]
    exact le_top
  · have hbot : n ≠ ⊥ := ((EReal.bot_lt_coe _).trans_le h).ne'
    obtain ⟨c, hc, hfixed⟩ := exists_eq_double hx htop hbot
    rw [← hc, toEReal_le_iff] at h
    rw [← hfixed]
    exact rounded_mono h

/-- No number is rounded below a double that does not exceed it. -/
theorem le_rounded_of_le (h : n ≤ d.toEReal) : n ≤ d.rounded := by
  by_cases hbot : n = ⊥
  · rw [hbot]
    exact bot_le
  · have htop : n ≠ ⊤ := (h.trans_lt (EReal.coe_lt_top _)).ne
    obtain ⟨c, hc, hfixed⟩ := exists_eq_double hx htop hbot
    rw [← hc, toEReal_le_iff] at h
    rw [← hfixed]
    exact rounded_mono h

end Doubles

end Decimal

end FacetSearch
