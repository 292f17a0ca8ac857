/-
# FacetSearch.Proofs.FloatText — the text of a double is read back as the double.

A double is printed with the fewest digits that lead back to it, with a point in place or with an
exponent.  Either way the text is a numeral, and a numeral is read as the number that it writes.
So no double is changed by printing and reading it, whatever its layout.
-/
import FacetSearch.Numeric.Integer
import FacetSearch.Proofs.ExactRank
import FacetSearch.Proofs.Numeral

namespace FacetSearch

/-! ## Reading a numeral -/

namespace Numeral

variable (n : Numeral)

/-- The places after the point, if there are any. -/
def placesText : Text :=
  match n.places with
  | none => []
  | some ds => ds.text

/-- The number that all digits before the exponent write. -/
def coefficient : Nat := Text.digitsValue (n.whole.text ++ n.placesText)

/-- The number that the exponent writes. -/
def exponentValue : Int :=
  match n.exponent with
  | none => 0
  | some (negative, ds) =>
    if negative then -(Text.digitsValue ds.text : Nat) else (Text.digitsValue ds.text : Nat)

/-- The power of ten that scales the coefficient. -/
def power : Int := n.exponentValue - n.placesText.length

theorem takeSign_toText : DecimalDatum.takeSign n.toText =
    (n.negative, n.whole.text ++ (n.fractionText ++ n.exponentText)) := by
  obtain ⟨d, ds, hds, hdigit⟩ := n.exists_digit
  have hminus : d ≠ CodePoint.ofChar '-' := by rintro rfl; exact absurd hdigit (by decide)
  have hplus : d ≠ CodePoint.ofChar '+' := by rintro rfl; exact absurd hdigit (by decide)
  cases hneg : n.negative with
  | true => simp [toText, signText, hneg, DecimalDatum.takeSign]
  | false => simp [toText, signText, hneg, hds, DecimalDatum.takeSign, hminus, hplus]

/-- What begins with a digit is no word. -/
theorem special?_eq_none (negative : Bool) (tail : Text) :
    Binary64.special? negative (n.whole.text ++ tail) = none := by
  obtain ⟨d, ds, hds, hdigit⟩ := n.exists_digit
  have hlower : d.toLower = d := by
    simp only [CodePoint.isDigit, Bool.and_eq_true, decide_eq_true_eq] at hdigit
    rw [CodePoint.toLower, if_neg]
    simp only [Bool.and_eq_true, decide_eq_true_eq]
    omega
  have hne (word : Text) (hword : word.head?.all CodePoint.isDigit = false) :
      Text.lower (n.whole.text ++ tail) ≠ word := by
    rintro rfl
    simp [hds, Text.lower, hlower, hdigit] at hword
  have hinf := hne "inf" rfl
  have hinfinity := hne "infinity" rfl
  have hnan := hne "nan" rfl
  simp only [Binary64.special?, hinf, hinfinity, hnan, or_self, if_false]

theorem mantissa?_eq_some :
    DecimalDatum.mantissa? (n.whole.text ++ (n.fractionText ++ n.exponentText)) =
      some (n.coefficient, n.placesText.length, n.exponentText) := by
  have hnone : Text.Ends CodePoint.isDigit [] := by rintro c ⟨⟩
  have hfraction := n.ends_fraction rfl rfl hnone
  have hexponent := n.ends_exponent rfl hnone
  rw [List.append_nil] at hfraction hexponent
  simp only [DecimalDatum.mantissa?, Text.takeWhile_append_of_ends n.whole.digits hfraction,
    Text.dropWhile_append_of_ends n.whole.digits hfraction, n.whole.nonempty, false_and, if_false]
  unfold coefficient placesText fractionText
  cases n.places with
  | none =>
      unfold exponentText
      cases n.exponent with
      | none => simp
      | some exponent =>
          have hmark : CodePoint.ofChar 'e' ≠ CodePoint.ofChar '.' := by decide
          simp [hmark]
  | some ds =>
      simp only [List.cons_append, if_true, Text.takeWhile_append_of_ends ds.digits hexponent,
        Text.dropWhile_append_of_ends ds.digits hexponent]

theorem exponent?_eq_some : DecimalDatum.exponent? n.exponentText = some n.exponentValue := by
  unfold exponentText exponentValue
  cases n.exponent with
  | none => rfl
  | some exponent =>
      obtain ⟨negative, ds⟩ := exponent
      have hmark : (CodePoint.ofChar 'e').toLower = CodePoint.ofChar 'e' := by decide
      have hdigits : ds.text.all CodePoint.isDigit = true := List.all_eq_true.mpr ds.digits
      have hplus : CodePoint.ofChar '+' ≠ CodePoint.ofChar '-' := by decide
      cases negative <;>
        simp only [DecimalDatum.exponent?, DecimalDatum.signedDigits?, DecimalDatum.takeSign, hmark,
          hplus, hdigits, ds.nonempty, ne_eq, not_false_eq_true, and_self, if_true, if_false,
          Bool.false_eq_true]

/-- **A numeral is read as the number that it writes.** -/
theorem ofText?_toText :
    Binary64.ofText? n.toText = some (.ofDecimal n.negative n.coefficient n.power) := by
  simp only [Binary64.ofText?, takeSign_toText, special?_eq_none, mantissa?_eq_some,
    exponent?_eq_some, Option.map_some]
  rfl

end Numeral

/-! ## Printing a double -/

theorem Text.isDigit_zeros (k : Nat) :
    ∀ c ∈ List.replicate k (CodePoint.ofChar '0'), c.isDigit = true := by
  intro c hc
  rw [List.eq_of_mem_replicate hc]
  rfl

/-- Digits with zeros in front. -/
def Digits.padded (k : Nat) (ds : Digits) : Digits where
  text := List.replicate k (CodePoint.ofChar '0') ++ ds.text
  nonempty := List.append_ne_nil_of_right_ne_nil _ ds.nonempty
  digits := List.forall_mem_append.mpr ⟨Text.isDigit_zeros k, ds.digits⟩

/-- Digits with zeros behind. -/
def Digits.extended (ds : Digits) (k : Nat) : Digits where
  text := ds.text ++ List.replicate k (CodePoint.ofChar '0')
  nonempty := List.append_ne_nil_of_left_ne_nil ds.nonempty _
  digits := List.forall_mem_append.mpr ⟨ds.digits, Text.isDigit_zeros k⟩

/-- A part of the digits of a number. -/
def Digits.part (c : Nat) (t : Text) (nonempty : t ≠ []) (h : t ⊆ Text.ofNat c) : Digits :=
  ⟨t, nonempty, fun d hd => Text.isDigit_ofNat c d (h hd)⟩

/-- A numeral has a given text, is no integer by its looks, and writes `c * 10 ^ e`. -/
structure Numeral.Writes (n : Numeral) (t : Text) (c : Nat) (e : Int) : Prop where
  positive : n.negative = false
  text : n.toText = t
  fractional : ¬ (n.fractionText = [] ∧ n.exponentText = [])
  value : Decimal.magnitude n.coefficient n.power = Decimal.magnitude c e

/-- A numeral with places is no integer by its looks. -/
theorem Numeral.not_integral {n : Numeral} {ds : Digits} (h : n.places = some ds) :
    ¬ (n.fractionText = [] ∧ n.exponentText = []) := by
  rw [Numeral.fractionText, h]
  exact fun hnone => absurd hnone.1 (List.cons_ne_nil _ _)

namespace Binary64

open Numeral Text

/-- All digits stand behind the point. -/
theorem exists_small (c : Nat) {e : Int} (h : e + (Text.ofNat c).length ≤ 0) :
    ∃ n : Numeral, n.Writes (positional (Text.ofNat c) (e + (Text.ofNat c).length)) c e := by
  refine ⟨⟨false, .ofNat 0, some (.padded (-(e + (Text.ofNat c).length)).toNat (.ofNat c)), none,
    fun _ => rfl⟩, rfl, ?_, not_integral rfl, ?_⟩
  · rw [positional, if_pos h]
    exact List.append_nil _
  · congr 1
    · exact (digitsValue_zeros 1 _).trans ((digitsValue_zeros _ _).trans (digitsValue_ofNat c))
    · simp only [power, exponentValue, placesText, Digits.padded, Digits.ofNat,
        List.length_append, List.length_replicate]
      omega

/-- All digits stand before the point, and zeros perhaps between. -/
theorem exists_whole {c : Nat} (hc : 0 < c) {e : Int} (h : 0 ≤ e) :
    ∃ n : Numeral, n.Writes (positional (Text.ofNat c) (e + (Text.ofNat c).length)) c e := by
  have hlength : 0 < (Text.ofNat c).length := List.length_pos_iff.mpr (ofNat_ne_nil c)
  have hpadded : (Text.ofNat c).padRight (e + (Text.ofNat c).length).toNat '0' =
      ((Digits.ofNat c).extended e.toNat).text := by
    rw [padRight, Digits.extended]
    congr 2
    omega
  refine ⟨⟨false, (Digits.ofNat c).extended e.toNat, some (.ofNat 0), none, fun hzero => ?_⟩,
    rfl, ?_, not_integral rfl, ?_⟩
  · exact absurd hzero (head?_ofNat_append hc _)
  · rw [positional, if_neg (by omega), if_pos (by omega), hpadded]
    exact List.append_nil _
  · have hcoefficient : digitsValue (((Digits.ofNat c).extended e.toNat).text ++
        List.replicate 1 (CodePoint.ofChar '0')) = c * Nat.pow 10 (e - -1).toNat := by
      rw [digitsValue_append_zeros, Digits.extended, digitsValue_append_zeros, Digits.ofNat,
        digitsValue_ofNat, Nat.mul_assoc, ← Nat.pow_add]
      congr 2
      omega
    rw [← Decimal.magnitude_shift c (show -1 ≤ e by omega), ← hcoefficient]
    rfl

/-- The point stands among the digits. -/
theorem exists_split {c : Nat} (hc : 0 < c) {e : Int} (h : e < 0)
    (hpoint : 0 < e + (Text.ofNat c).length) :
    ∃ n : Numeral, n.Writes (positional (Text.ofNat c) (e + (Text.ofNat c).length)) c e := by
  generalize hk : (e + (Text.ofNat c).length).toNat = k
  have hbefore : (Text.ofNat c).take k ≠ [] := by
    rw [Ne, List.take_eq_nil_iff, not_or]
    exact ⟨by omega, ofNat_ne_nil c⟩
  have hbehind : (Text.ofNat c).drop k ≠ [] := by
    rw [Ne, List.drop_eq_nil_iff]
    omega
  have hhead : ((Text.ofNat c).take k).head? ≠ some (CodePoint.ofChar '0') := by
    rw [List.head?_take, if_neg (by omega)]
    exact head?_ofNat hc
  refine ⟨⟨false, .part c _ hbefore (List.take_subset _ _),
    some (.part c _ hbehind (List.drop_subset _ _)), none, fun hzero => absurd hzero hhead⟩, rfl,
    ?_, not_integral rfl, ?_⟩
  · rw [positional, if_neg (by omega)]
    simp only [hk]
    rw [if_neg (by omega), List.append_assoc]
    exact List.append_nil _
  · congr 1
    · simp only [coefficient, placesText, Digits.part, List.take_append_drop, digitsValue_ofNat]
    · simp only [power, exponentValue, placesText, Digits.part, List.length_drop]
      omega

/-- **A positional text is a numeral** for the number that its digits stand for. -/
theorem exists_positional {c : Nat} (hc : 0 < c) (e : Int) :
    ∃ n : Numeral, n.Writes (positional (Text.ofNat c) (e + (Text.ofNat c).length)) c e := by
  by_cases hsmall : e + (Text.ofNat c).length ≤ 0
  · exact exists_small c hsmall
  · by_cases hwhole : 0 ≤ e
    · exact exists_whole hc hwhole
    · exact exists_split hc (by omega) (by omega)

/-- The exponent of a scaled text: its sign, and two digits or more. -/
def scale (e : Int) : Bool × Digits :=
  (decide (e < 0), .padded (2 - (Text.ofNat e.natAbs).length) (.ofNat e.natAbs))

theorem exponentText_scale {n : Numeral} {e : Int} (h : n.exponent = some (scale e)) :
    n.exponentText = CodePoint.ofChar 'e' :: exponentText e := by
  rw [Numeral.exponentText, h, exponentText]
  by_cases hneg : e < 0
  · simp only [scale, hneg, if_true, decide_true]
    rfl
  · simp only [scale, hneg, if_false, decide_false, Bool.false_eq_true]
    rfl

theorem exponentValue_scale {n : Numeral} {e : Int} (h : n.exponent = some (scale e)) :
    n.exponentValue = e := by
  simp only [exponentValue, h, scale, Digits.padded, digitsValue_zeros, Digits.ofNat,
    digitsValue_ofNat, decide_eq_true_eq]
  split_ifs <;> omega

theorem writes_scaled {n : Numeral} {ds : Text} {c : Nat} {e lead : Int}
    (positive : n.negative = false) (hexponent : n.exponent = some (scale lead))
    (htext : n.whole.text ++ n.fractionText ++ ofString "e" ++ exponentText lead = scaled ds lead)
    (hcoefficient : n.coefficient = c) (hplaces : lead - n.placesText.length = e) :
    n.Writes (scaled ds lead) c e := by
  have hscale := exponentText_scale hexponent
  refine ⟨positive, ?_, by simp [hscale], ?_⟩
  · rw [← htext, Numeral.toText, signText, positive, hscale, List.append_assoc _ (ofString "e")]
    rfl
  · rw [power, exponentValue_scale hexponent, hplaces, hcoefficient]

/-- **A scaled text is a numeral** for the number that its digits stand for. -/
theorem exists_scaled {c : Nat} (hc : 0 < c) (e : Int) :
    ∃ n : Numeral, n.Writes (scaled (Text.ofNat c) (e + (Text.ofNat c).length - 1)) c e := by
  have hzero := head?_ofNat hc
  have hvalue := digitsValue_ofNat c
  have hdigits : Text.ofNat c ⊆ Text.ofNat c := List.Subset.refl _
  cases hds : Text.ofNat c with
  | nil => exact absurd hds (ofNat_ne_nil c)
  | cons d ds =>
      rw [hds] at hzero hvalue
      conv_lhs at hdigits => rw [hds]
      obtain ⟨hd, htail⟩ := List.cons_subset.mp hdigits
      let whole : Digits := .part c [d] (List.cons_ne_nil d _) (by simpa using hd)
      have noZero : whole.text.head? = some (CodePoint.ofChar '0') →
          whole.text = [CodePoint.ofChar '0'] := fun h => absurd h hzero
      generalize hlead : e + ((d :: ds).length : Int) - 1 = lead
      rw [List.length_cons] at hlead
      cases ds with
      | nil =>
          refine ⟨⟨false, whole, none, some (scale lead), noZero⟩, ?_⟩
          refine writes_scaled rfl rfl rfl hvalue ?_
          simp only [placesText, List.length_nil] at hlead ⊢
          omega
      | cons d' ds =>
          refine ⟨⟨false, whole, some (.part c (d' :: ds) (List.cons_ne_nil d' ds) htail),
            some (scale lead), noZero⟩, ?_⟩
          refine writes_scaled rfl rfl rfl hvalue ?_
          simp only [placesText, Digits.part]
          omega

/-! ## Every double -/

/-- The text of a finite magnitude is a numeral that is read back as it. -/
theorem exists_magnitude (layout : FloatLayout) {rank : Nat} (h : rank < infinityRank) :
    ∃ (n : Numeral) (c : Nat) (e : Int),
      n.Writes (magnitudeText layout rank) c e ∧ rankOfDecimal c e = rank := by
  rcases Nat.eq_zero_or_pos rank with rfl | hpos
  · refine ⟨⟨false, .ofNat 0, some (.ofNat 0), none, fun _ => rfl⟩, 0, 0, ⟨rfl, ?_, ?_, ?_⟩, ?_⟩
    · rw [magnitudeText, if_pos rfl]
      rfl
    · exact not_integral rfl
    · show Decimal.magnitude 0 _ = _
      rw [Decimal.magnitude_zero, Decimal.magnitude_zero]
    · rw [rankOfDecimal, if_pos rfl]
  · have hc := shortest_pos hpos h
    have hrank := rankOfDecimal_shortest hpos h
    simp only [magnitudeText, hpos.ne', Nat.not_le_of_lt h, if_false]
    split_ifs
    · obtain ⟨n, hn⟩ := exists_positional hc (shortest rank).2
      rw [Int.sub_add_cancel]
      exact ⟨n, _, _, hn, hrank⟩
    · obtain ⟨n, hn⟩ := exists_scaled hc (shortest rank).2
      exact ⟨n, _, _, hn, hrank⟩

theorem ofRank_val (negative : Bool) (rank : Fin (infinityRank + 1)) :
    ofRank negative rank.val = .number negative rank := by
  rw [ofRank]
  congr 1
  exact Fin.ext (Nat.min_eq_left (Nat.le_of_lt_succ rank.isLt))

/-- **The text of a finite double is a numeral that is read back as the double**, in every
layout. -/
theorem exists_numeral (layout : FloatLayout) {x : Binary64} (h : x.isFinite = true) :
    ∃ n : Numeral, n.toText = x.textIn layout ∧
      ¬ (n.fractionText = [] ∧ n.exponentText = []) ∧ ofText? n.toText = some x := by
  cases x with
  | nan => exact absurd h (by simp [isFinite])
  | number negative rank =>
      have hrank : rank.val < infinityRank := of_decide_eq_true h
      obtain ⟨n, c, e, hn, hread⟩ := exists_magnitude layout hrank
      refine ⟨{ n with negative := negative }, ?_, hn.fractional, ?_⟩
      · have htext := hn.text
        rw [Numeral.toText, signText, hn.positive] at htext
        rw [textIn, ← htext, Numeral.toText, signText]
        cases negative <;> rfl
      · rw [ofText?_toText, ofDecimal]
        have hvalue : rankOfDecimal n.coefficient n.power = rank.val :=
          (rankOfDecimal_congr hn.value).trans hread
        show some (ofRank negative (rankOfDecimal n.coefficient n.power)) = _
        rw [hvalue, ofRank_val]

/-- A double that is not finite is one of three. -/
theorem nan_or_infinity {x : Binary64} (h : ¬ x.isFinite = true) :
    x = .nan ∨ ∃ negative, x = infinity negative := by
  cases x with
  | nan => exact .inl rfl
  | number negative rank =>
      have hnot : ¬ rank.val < infinityRank := fun hlt => h (decide_eq_true hlt)
      have hrank : rank.val = infinityRank := by omega
      exact .inr ⟨negative, by rw [infinity, ← hrank, ofRank_val]⟩

theorem textIn_infinity (layout : FloatLayout) (negative : Bool) :
    (infinity negative).textIn layout =
      (if negative then ofString "-" else []) ++ layout.infinity := by
  have hword : magnitudeText layout infinityRank = layout.infinity := by
    rw [magnitudeText, if_neg (by decide), if_pos (Nat.le_refl _)]
  show _ ++ magnitudeText layout (min infinityRank infinityRank) = _
  rw [Nat.min_self, hword]
  cases negative <;> rfl

/-- **Every double is read back from its text**, infinities and not-a-number included. -/
theorem ofText?_toText (x : Binary64) : ofText? x.toText = some x := by
  by_cases h : x.isFinite = true
  · obtain ⟨n, htext, -, hread⟩ := exists_numeral .plain h
    rw [toText, ← htext, hread]
  · rcases nan_or_infinity h with rfl | ⟨negative, rfl⟩
    · rfl
    · rw [toText, textIn_infinity]
      cases negative <;> rfl

end Binary64

end FacetSearch
