/-
# FacetSearch.Proofs.ExactRank — the double of a number depends on the number alone.

A number is rounded as a fraction or as a decimal, and either may be given in many ways.  The rank
of the nearest double is the same for all of them.  A finite double is its own nearest double, so
its exact decimal expansion leads back to it, and so do the digits that are printed for it.
-/
import FacetSearch.Numeric.Shortest
import FacetSearch.Proofs.Overflow

namespace FacetSearch

/-! ## Rounding to a whole number -/

theorem roundHalfEven_mul_left {k : Nat} (hk : 0 < k) (n d : Nat) :
    roundHalfEven (k * n) (k * d) = roundHalfEven n d := by
  have hlow : 2 * (k * (n % d)) < k * d ↔ 2 * (n % d) < d := by
    rw [Nat.mul_left_comm, Nat.mul_lt_mul_left hk]
  have hhigh : k * d < 2 * (k * (n % d)) ↔ d < 2 * (n % d) := by
    rw [Nat.mul_left_comm, Nat.mul_lt_mul_left hk]
  simp only [roundHalfEven, Nat.mul_div_mul_left n d hk, Nat.mul_mod_mul_left, hlow, hhigh]

theorem roundHalfEven_congr {n d n' d' : Nat} (hd : 0 < d) (hd' : 0 < d')
    (h : n * d' = n' * d) : roundHalfEven n d = roundHalfEven n' d' :=
  calc roundHalfEven n d = roundHalfEven (d' * n) (d' * d) := (roundHalfEven_mul_left hd' n d).symm
    _ = roundHalfEven (d * n') (d * d') := by
        rw [Nat.mul_comm d' n, h, Nat.mul_comm n' d, Nat.mul_comm d' d]
    _ = roundHalfEven n' d' := roundHalfEven_mul_left hd n' d'

/-- A whole number is rounded to itself. -/
theorem roundHalfEven_mul_self {d : Nat} (hd : 0 < d) (m : Nat) :
    roundHalfEven (m * d) d = m := by
  simp [roundHalfEven, Nat.mul_div_cancel m hd, hd]

namespace Binary64

/-! ## Fractions -/

/-- The binary exponent of a fraction is the only one that bounds it. -/
theorem binaryExponent_eq {n d : Nat} (hn : 0 < n) (hd : 0 < d) {e : Int}
    (hlow : (2 : ℚ) ^ e ≤ (n : ℚ) / d) (hhigh : (n : ℚ) / d < (2 : ℚ) ^ (e + 1)) :
    binaryExponent n d = e := by
  obtain ⟨hlow', hhigh'⟩ := binaryExponent_bounds hn hd
  have hle : binaryExponent n d < e + 1 :=
    (zpow_lt_zpow_iff_right₀ one_lt_two).mp (hlow'.trans_lt hhigh)
  have hge : e < binaryExponent n d + 1 :=
    (zpow_lt_zpow_iff_right₀ one_lt_two).mp (hlow.trans_lt hhigh')
  omega

/-- **The rank of a fraction depends on the number that it is.** -/
theorem rankOfFraction_congr {n d n' d' : Nat} (hn : 0 < n) (hd : 0 < d) (hn' : 0 < n')
    (hd' : 0 < d') (h : (n : ℚ) / d = (n' : ℚ) / d') :
    rankOfFraction n d = rankOfFraction n' d' := by
  obtain ⟨hlow, hhigh⟩ := binaryExponent_bounds hn' hd'
  have hexponent : binaryExponent n d = binaryExponent n' d' :=
    binaryExponent_eq hn hd (h ▸ hlow) (h ▸ hhigh)
  have hcross : n * d' = n' * d := by
    have hd0 : (d : ℚ) ≠ 0 := by exact_mod_cast hd.ne'
    have hd0' : (d' : ℚ) ≠ 0 := by exact_mod_cast hd'.ne'
    exact_mod_cast (div_eq_div_iff hd0 hd0').mp h
  have hmantissa (grid : Int) :
      roundHalfEven (n * (dyadic 1 grid).2) (d * (dyadic 1 grid).1) =
        roundHalfEven (n' * (dyadic 1 grid).2) (d' * (dyadic 1 grid).1) := by
    obtain ⟨ha, hb⟩ := dyadic_one_pos grid
    apply roundHalfEven_congr (Nat.mul_pos hd ha) (Nat.mul_pos hd' ha)
    rw [Nat.mul_mul_mul_comm, hcross, Nat.mul_mul_mul_comm]
  simp only [rankOfFraction, hn.ne', hn'.ne', if_false, hexponent, hmantissa]

/-! ## Finite ranks -/

/-- The number that a finite rank stands for. -/
def rankValue (rank : Nat) : ℚ := mantissaOf rank * (2 : ℚ) ^ exponentOf rank

theorem cast_fractionOf (rank : Nat) :
    ((fractionOf rank).1 : ℚ) / (fractionOf rank).2 = rankValue rank := by
  rw [fractionOf, dyadic_eq, cast_scaledFraction]
  rfl

theorem mantissaOf_pos {rank : Nat} (h : 0 < rank) : 0 < mantissaOf rank := by
  unfold mantissaOf binadeSize
  split_ifs <;> omega

theorem mantissaOf_lt (rank : Nat) : mantissaOf rank < 2 ^ 53 := by
  unfold mantissaOf binadeSize
  split_ifs <;> omega

theorem exponentOf_bounds {rank : Nat} (h : rank < infinityRank) :
    -1074 ≤ exponentOf rank ∧ exponentOf rank ≤ 971 := by
  unfold infinityRank at h
  unfold exponentOf
  unfold binadeSize at *
  split_ifs <;> omega

/-- A finite rank counts the binades below its own and the mantissas inside it. -/
theorem rank_eq (rank : Nat) :
    (exponentOf rank + 1074).toNat * binadeSize + mantissaOf rank = rank := by
  by_cases hnormal : rank < binadeSize
  · rw [exponentOf, mantissaOf, if_pos hnormal, if_pos hnormal]
    exact (Nat.add_eq_right).mpr (Nat.zero_mul _)
  · rw [exponentOf, mantissaOf, if_neg hnormal, if_neg hnormal]
    unfold binadeSize at *
    omega

/-- A multiple of a power of two on the grid of this power. -/
theorem dyadic_scale (m : Nat) (e : Int) :
    (dyadic m e).1 * (dyadic 1 e).2 = m * ((dyadic m e).2 * (dyadic 1 e).1) := by
  unfold dyadic
  split_ifs <;> simp

theorem rankValue_lt {rank k : Nat} (h : mantissaOf rank < 2 ^ k) :
    rankValue rank < (2 : ℚ) ^ (k + exponentOf rank : Int) := by
  rw [two_zpow_add]
  exact mul_lt_mul_of_pos_right (by exact_mod_cast h) (zpow_pos two_pos _)

theorem le_rankValue {rank k : Nat} (h : 2 ^ k ≤ mantissaOf rank) :
    (2 : ℚ) ^ (k + exponentOf rank : Int) ≤ rankValue rank := by
  rw [two_zpow_add]
  exact mul_le_mul_of_nonneg_right (by exact_mod_cast h) (zpow_pos two_pos _).le

/-- A subnormal number is less than the least normal one. -/
theorem subnormal_bounds {rank : Nat} (h : rank < binadeSize) :
    exponentOf rank = -1074 ∧ mantissaOf rank < 2 ^ 52 := by
  rw [exponentOf, mantissaOf, if_pos h, if_pos h]
  exact ⟨rfl, h⟩

/-- The mantissa of a normal number fills its binade. -/
theorem normal_bounds {rank : Nat} (h : ¬ rank < binadeSize) :
    -1074 ≤ exponentOf rank ∧ 2 ^ 52 ≤ mantissaOf rank := by
  rw [exponentOf, mantissaOf, if_neg h, if_neg h]
  unfold binadeSize at *
  omega

/-- The grid on which the number of a finite rank is rounded is the one on which it stands. -/
theorem grid_fractionOf {rank : Nat} (hpos : 0 < rank) :
    max (binaryExponent (fractionOf rank).1 (fractionOf rank).2 - 52) (-1074) =
      exponentOf rank := by
  have hmantissa := mantissaOf_pos hpos
  obtain ⟨hn, hd⟩ := scaledFraction_pos (show 0 < 2 by decide) hmantissa (exponentOf rank)
  rw [← dyadic_eq, ← fractionOf] at hn hd
  have hvalue := cast_fractionOf rank
  by_cases hnormal : rank < binadeSize
  · obtain ⟨hexponent, hsmall⟩ := subnormal_bounds hnormal
    have hbelow := (binaryExponent_bounds hn hd).1.trans_lt (hvalue ▸ rankValue_lt hsmall)
    have hlt := (zpow_lt_zpow_iff_right₀ (one_lt_two (α := ℚ))).mp hbelow
    omega
  · obtain ⟨hexponent, hlarge⟩ := normal_bounds hnormal
    have hnext : ((52 : Nat) + exponentOf rank + 1 : Int) = (53 : Nat) + exponentOf rank := by
      omega
    have hbinary : binaryExponent (fractionOf rank).1 (fractionOf rank).2 =
        (52 : Nat) + exponentOf rank := by
      apply binaryExponent_eq hn hd
      · exact hvalue ▸ le_rankValue hlarge
      · rw [hnext]
        exact hvalue ▸ rankValue_lt (mantissaOf_lt rank)
    omega

/-- **A finite double is its own nearest double.** -/
theorem rankOfFraction_fractionOf {rank : Nat} (h : rank < infinityRank) :
    rankOfFraction (fractionOf rank).1 (fractionOf rank).2 = rank := by
  rcases Nat.eq_zero_or_pos rank with rfl | hpos
  · decide +kernel
  have hmantissa := mantissaOf_pos hpos
  obtain ⟨hn, hd⟩ := scaledFraction_pos (show 0 < 2 by decide) hmantissa (exponentOf rank)
  rw [← dyadic_eq, ← fractionOf] at hn hd
  have hround : roundHalfEven ((fractionOf rank).1 * (dyadic 1 (exponentOf rank)).2)
      ((fractionOf rank).2 * (dyadic 1 (exponentOf rank)).1) = mantissaOf rank := by
    rw [fractionOf, dyadic_scale]
    exact roundHalfEven_mul_self (Nat.mul_pos hd (dyadic_one_pos _).1) _
  simp only [rankOfFraction, hn.ne', if_false, grid_fractionOf hpos, hround, rank_eq]
  exact Nat.min_eq_left h.le

/-! ## Decimals -/

theorem cast_decadic (c : Nat) (e : Int) :
    ((decadic c e).1 : ℚ) / (decadic c e).2 = Decimal.magnitude c e := by
  rw [decadic_eq, cast_scaledFraction]
  rfl

/-- **The rank of a decimal depends on the number that it is.** -/
theorem rankOfDecimal_congr {c c' : Nat} {e e' : Int}
    (h : Decimal.magnitude c e = Decimal.magnitude c' e') :
    rankOfDecimal c e = rankOfDecimal c' e' := by
  have hpos : 0 < c ↔ 0 < c' := by
    rw [← Decimal.magnitude_pos_iff, h, Decimal.magnitude_pos_iff]
  rcases Nat.eq_zero_or_pos c with rfl | hc
  · obtain rfl : c' = 0 := Nat.eq_zero_of_not_pos (mt hpos.mpr (Nat.lt_irrefl 0))
    rw [rankOfDecimal, rankOfDecimal, if_pos rfl, if_pos rfl]
  have hc' : 0 < c' := hpos.mp hc
  -- the place of the leading digit can be told from the number
  have hlead : e + decimalDigits c - 1 = e' + decimalDigits c' - 1 := by
    rcases lt_trichotomy (e + decimalDigits c - 1) (e' + decimalDigits c' - 1) with hlt | heq | hgt
    · exact absurd h (Decimal.magnitude_lt_of_lead_lt hc hc' hlt).ne
    · exact heq
    · exact absurd h (Decimal.magnitude_lt_of_lead_lt hc' hc hgt).ne'
  obtain ⟨hn, hd⟩ := scaledFraction_pos (show 0 < 10 by decide) hc e
  obtain ⟨hn', hd'⟩ := scaledFraction_pos (show 0 < 10 by decide) hc' e'
  have hfraction := rankOfFraction_congr hn hd hn' hd' (by
    rw [← decadic_eq, ← decadic_eq, cast_decadic, cast_decadic, h])
  simp only [rankOfDecimal, hc.ne', hc'.ne', if_false, hlead, decadic_eq, hfraction]

/-- The number of a finite rank that is not zero is neither too large nor too small for a
decimal. -/
theorem rankValue_bounds {rank : Nat} (hpos : 0 < rank) (h : rank < infinityRank) :
    (10 : ℚ) ^ (-324 : Int) ≤ rankValue rank ∧ rankValue rank < (10 : ℚ) ^ (309 : Int) := by
  obtain ⟨hlow, hhigh⟩ := exponentOf_bounds h
  have hscale : (0 : ℚ) < (2 : ℚ) ^ exponentOf rank := zpow_pos two_pos _
  have hone : (1 : ℚ) ≤ mantissaOf rank := by exact_mod_cast mantissaOf_pos hpos
  refine ⟨?_, ?_⟩
  · have hpowers : (2 : ℚ) ^ (1074 : Nat) ≤ (10 : ℚ) ^ (324 : Nat) := by
      exact_mod_cast (show 2 ^ 1074 ≤ 10 ^ 324 by decide +kernel)
    calc (10 : ℚ) ^ (-324 : Int) = ((10 : ℚ) ^ (324 : Nat))⁻¹ := by rw [zpow_neg, zpow_ofNat]
      _ ≤ ((2 : ℚ) ^ (1074 : Nat))⁻¹ := inv_anti₀ (by positivity) hpowers
      _ = (2 : ℚ) ^ (-1074 : Int) := by rw [zpow_neg, zpow_ofNat]
      _ ≤ (2 : ℚ) ^ exponentOf rank := zpow_le_zpow_right₀ one_le_two hlow
      _ ≤ rankValue rank := le_mul_of_one_le_left hscale.le hone
  · calc rankValue rank < (2 : ℚ) ^ ((53 : Nat) + exponentOf rank : Int) :=
          rankValue_lt (mantissaOf_lt rank)
      _ ≤ (2 : ℚ) ^ (1024 : Int) := zpow_le_zpow_right₀ one_le_two (by omega)
      _ ≤ (10 : ℚ) ^ (309 : Int) := by
          exact_mod_cast (show 2 ^ 1024 ≤ 10 ^ 309 by decide +kernel)

/-- **A decimal that is the number of a finite double is read as this double.** -/
theorem rankOfDecimal_of_rankValue {rank : Nat} (hpos : 0 < rank) (h : rank < infinityRank)
    {c : Nat} {e : Int} (hvalue : Decimal.magnitude c e = rankValue rank) :
    rankOfDecimal c e = rank := by
  obtain ⟨hlow, hhigh⟩ := rankValue_bounds hpos h
  rw [← hvalue] at hlow hhigh
  have hc : 0 < c := Decimal.magnitude_pos_iff.mp (lt_of_lt_of_le (by positivity) hlow)
  obtain ⟨hleadLow, hleadHigh⟩ := Decimal.magnitude_bounds hc e
  have hten : (1 : ℚ) < 10 := by norm_num
  have hnotLarge : ¬ 308 < e + decimalDigits c - 1 := by
    have hlt := (zpow_lt_zpow_iff_right₀ hten).mp (hleadLow.trans_lt hhigh)
    omega
  have hnotSmall : ¬ e + decimalDigits c - 1 < -324 := by
    have hlt := (zpow_lt_zpow_iff_right₀ hten).mp (hlow.trans_lt hleadHigh)
    omega
  obtain ⟨hn, hd⟩ := scaledFraction_pos (show 0 < 10 by decide) hc e
  obtain ⟨hn', hd'⟩ := scaledFraction_pos (show 0 < 2 by decide) (mantissaOf_pos hpos)
    (exponentOf rank)
  have hfraction := rankOfFraction_congr hn hd hn' hd' (by
    rw [← decadic_eq, cast_decadic, hvalue, ← cast_fractionOf, fractionOf, dyadic_eq])
  simp only [rankOfDecimal, hc.ne', if_false, hnotLarge, hnotSmall]
  rw [decadic_eq, hfraction]
  exact rankOfFraction_fractionOf h

/-! ## Printed digits -/

theorem magnitude_ten_mul (c : Nat) (e : Int) :
    Decimal.magnitude (10 * c) e = Decimal.magnitude c (e + 1) := by
  rw [Decimal.magnitude, Decimal.magnitude, zpow_add₀ (by norm_num), zpow_one]
  push_cast
  ring

/-- Trailing zeros may be dropped. -/
theorem rankOfDecimal_dropTrailingZeros (c : Nat) (e : Int) :
    rankOfDecimal (Digits.dropTrailingZeros c e).1 (Digits.dropTrailingZeros c e).2 =
      rankOfDecimal c e := by
  induction c using Nat.strongRecOn generalizing e with
  | ind c ih =>
      rw [Digits.dropTrailingZeros]
      split_ifs with h
      · have hten : 10 * (c / 10) = c := by omega
        rw [ih (c / 10) (by omega)]
        exact rankOfDecimal_congr (by rw [← magnitude_ten_mul, hten])
      · rfl

/-- A power of two is a whole number. -/
theorem magnitude_whole (m : Nat) {e : Int} (he : 0 ≤ e) :
    Decimal.magnitude (m * Nat.pow 2 e.toNat) 0 = m * (2 : ℚ) ^ e := by
  rw [Decimal.magnitude, zpow_zero, mul_one, Nat.cast_mul, Nat.pow_eq, Nat.cast_pow,
    ← zpow_natCast, Int.toNat_of_nonneg he, Nat.cast_ofNat]

/-- A negative power of two is a power of five below the point. -/
theorem magnitude_below_point (m : Nat) {e : Int} (he : ¬ 0 ≤ e) :
    Decimal.magnitude (m * Nat.pow 5 (-e).toNat) e = m * (2 : ℚ) ^ e := by
  have hten : (10 : ℚ) ^ e = (5 : ℚ) ^ e * (2 : ℚ) ^ e := by
    rw [← mul_zpow]
    norm_num
  have hfive : ((Nat.pow 5 (-e).toNat : Nat) : ℚ) = (5 : ℚ) ^ (-e) := by
    rw [Nat.pow_eq, Nat.cast_pow, ← zpow_natCast, Int.toNat_of_nonneg (by omega), Nat.cast_ofNat]
  have hcancel : (5 : ℚ) ^ (-e) * (5 : ℚ) ^ e = 1 := by
    rw [← zpow_add₀ (by norm_num), neg_add_cancel, zpow_zero]
  calc Decimal.magnitude (m * Nat.pow 5 (-e).toNat) e
      = m * ((5 : ℚ) ^ (-e) * (5 : ℚ) ^ e) * (2 : ℚ) ^ e := by
        rw [Decimal.magnitude, Nat.cast_mul, hfive, hten]
        ring
    _ = m * (2 : ℚ) ^ e := by rw [hcancel, mul_one]

/-- **The digits that are printed for a finite double are read as this double.** -/
theorem rankOfDecimal_shortest {rank : Nat} (hpos : 0 < rank) (h : rank < infinityRank) :
    rankOfDecimal (shortest rank).1 (shortest rank).2 = rank := by
  unfold shortest
  simp only
  split
  · next c e hfound =>
      -- a grid is taken only after its neighbour has been read back
      obtain ⟨count, -, hgrid⟩ := List.exists_of_findSome?_eq_some hfound
      obtain ⟨c', hneighbour, hpair⟩ := Option.map_eq_some_iff.mp hgrid
      obtain ⟨rfl, rfl⟩ := Prod.mk.inj hpair
      have hread := List.find?_some hneighbour
      rw [beq_iff_eq] at hread
      rw [rankOfDecimal_dropTrailingZeros, hread]
  · by_cases he : 0 ≤ exponentOf rank
    · rw [if_pos he]
      exact rankOfDecimal_of_rankValue hpos h (magnitude_whole _ he)
    · rw [if_neg he]
      exact rankOfDecimal_of_rankValue hpos h (magnitude_below_point _ he)

/-- There is a digit that counts among them. -/
theorem shortest_pos {rank : Nat} (hpos : 0 < rank) (h : rank < infinityRank) :
    0 < (shortest rank).1 := by
  rw [Nat.pos_iff_ne_zero]
  intro hzero
  have hrank := rankOfDecimal_shortest hpos h
  rw [hzero, rankOfDecimal, if_pos rfl] at hrank
  exact hpos.ne hrank

end Binary64

end FacetSearch
