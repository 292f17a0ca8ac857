/-
# FacetSearch.Proofs.Numeral — numbers as they are written.

A natural number is written in decimal digits, without a zero in front, and its digits give the
number back.  A numeral goes on from there: a sign, whole digits, perhaps a point with places,
perhaps an exponent.  Where a run of digits ends cannot be mistaken, as long as what follows does
not begin with another digit.
-/
import FacetSearch.Text.Basic
import Mathlib.Data.List.TakeWhile
import Mathlib.Data.Nat.Digits.Defs
import Mathlib.Tactic.IntervalCases

namespace FacetSearch

/-! ## Digits -/

namespace Text

/-- The digit of a number below ten. -/
def digit (n : Nat) : CodePoint := .ofNat (0x30 + n)

theorem ofNat_of_lt {n : Nat} (h : n < 10) : ofNat n = [digit n] := by
  interval_cases n <;> rfl

theorem ofNat_of_le {n : Nat} (h : 10 ≤ n) : ofNat n = ofNat (n / 10) ++ [digit (n % 10)] := by
  have hlast : ofNat (n % 10) = [digit (n % 10)] := ofNat_of_lt (Nat.mod_lt n (by decide))
  rw [ofNat, Nat.toDigits_of_base_le (by decide) h, List.map_append, ← hlast, ofNat, ofNat,
    Nat.toDigits_of_lt_base (Nat.mod_lt n (by decide))]

theorem isDigit_digit {n : Nat} (h : n < 10) : (digit n).isDigit = true := by
  interval_cases n <;> rfl

theorem digitValue_digit {n : Nat} (h : n < 10) : (digit n).digitValue = n := by
  interval_cases n <;> rfl

theorem ofNat_ne_nil (n : Nat) : ofNat n ≠ [] := by
  rw [ofNat, Ne, List.map_eq_nil_iff]
  exact Nat.toDigits_ne_nil

/-- The digits of a number, counted up from the numbers of one digit. -/
theorem ofNat_induction {motive : Nat → Prop} (short : ∀ n < 10, motive n)
    (more : ∀ n, 10 ≤ n → motive (n / 10) → motive n) (n : Nat) : motive n := by
  induction n using Nat.strongRecOn with
  | ind n ih =>
      by_cases h : n < 10
      · exact short n h
      · exact more n (by omega) (ih (n / 10) (by omega))

theorem isDigit_ofNat (n : Nat) : ∀ c ∈ ofNat n, c.isDigit = true := by
  induction n using ofNat_induction with
  | short n h =>
      rw [ofNat_of_lt h]
      exact List.forall_mem_singleton.mpr (isDigit_digit h)
  | more n h ih =>
      rw [ofNat_of_le h, List.forall_mem_append]
      exact ⟨ih, List.forall_mem_singleton.mpr (isDigit_digit (Nat.mod_lt n (by decide)))⟩

theorem digitsValue_append_singleton (ds : Text) (c : CodePoint) :
    digitsValue (ds ++ [c]) = 10 * digitsValue ds + c.digitValue :=
  List.foldl_append

/-- **The digits of a number write the number.** -/
theorem digitsValue_ofNat (n : Nat) : digitsValue (ofNat n) = n := by
  induction n using ofNat_induction with
  | short n h =>
      rw [ofNat_of_lt h]
      show 10 * 0 + (digit n).digitValue = n
      rw [digitValue_digit h, Nat.mul_zero, Nat.zero_add]
  | more n h ih =>
      rw [ofNat_of_le h, digitsValue_append_singleton, ih,
        digitValue_digit (Nat.mod_lt n (by decide))]
      exact Nat.div_add_mod n 10

/-- A number that is not zero has no zero in front. -/
theorem head?_ofNat {n : Nat} (hn : 0 < n) : (ofNat n).head? ≠ some ('0' : CodePoint) := by
  induction n using ofNat_induction with
  | short n h =>
      rw [ofNat_of_lt h]
      interval_cases n <;> decide
  | more n h ih =>
      have hhead : (ofNat n).head? = (ofNat (n / 10)).head? := by
        rw [ofNat_of_le h]
        cases hds : ofNat (n / 10) with
        | nil => exact absurd hds (ofNat_ne_nil _)
        | cons d ds => rfl
      rw [hhead]
      exact ih (by omega)

theorem head?_ofNat_append {n : Nat} (hn : 0 < n) (tail : Text) :
    (ofNat n ++ tail).head? ≠ some ('0' : CodePoint) := by
  have hhead := head?_ofNat hn
  cases hds : ofNat n with
  | nil => exact absurd hds (ofNat_ne_nil n)
  | cons d ds => rwa [hds] at hhead

/-- Zeros in front do not count. -/
theorem digitsValue_zeros (k : Nat) (ds : Text) :
    digitsValue (List.replicate k (CodePoint.ofChar '0') ++ ds) = digitsValue ds := by
  induction k with
  | zero => rfl
  | succ k ih => rw [List.replicate_succ, List.cons_append, digitsValue, List.foldl_cons]; exact ih

/-- Zeros behind count as tens. -/
theorem digitsValue_append_zeros (ds : Text) (k : Nat) :
    digitsValue (ds ++ List.replicate k (CodePoint.ofChar '0')) = digitsValue ds * 10 ^ k := by
  induction k with
  | zero => simp
  | succ k ih =>
      have hzero : (CodePoint.ofChar '0').digitValue = 0 := rfl
      rw [List.replicate_succ', ← List.append_assoc, digitsValue_append_singleton, ih, hzero,
        Nat.add_zero, Nat.pow_succ', Nat.mul_left_comm]

/-- A number below a power of ten has no more digits than the power has zeros. -/
theorem length_ofNat_le {n k : Nat} (hk : 0 < k) (h : n < 10 ^ k) : (ofNat n).length ≤ k := by
  rw [ofNat, List.length_map]
  exact Nat.toDigits_length 10 n k hk h

/-- What a run of code points of a kind is followed by: nothing, or something of another kind. -/
def Ends (p : CodePoint → Bool) (rest : Text) : Prop := ∀ c ∈ rest.head?, p c = false

theorem takeWhile_append_of_ends {p : CodePoint → Bool} {run rest : Text}
    (hrun : ∀ c ∈ run, p c = true) (hrest : Ends p rest) : (run ++ rest).takeWhile p = run := by
  have hstop : rest.takeWhile p = [] := by
    cases rest with
    | nil => rfl
    | cons c rest => rw [List.takeWhile_cons_of_neg]; simp [hrest c rfl]
  rw [List.takeWhile_append_of_pos hrun, hstop, List.append_nil]

theorem dropWhile_append_of_ends {p : CodePoint → Bool} {run rest : Text}
    (hrun : ∀ c ∈ run, p c = true) (hrest : Ends p rest) : (run ++ rest).dropWhile p = rest := by
  have hstop : rest.dropWhile p = rest := by
    cases rest with
    | nil => rfl
    | cons c rest => rw [List.dropWhile_cons_of_neg]; simp [hrest c rfl]
  rw [List.dropWhile_append_of_pos hrun, hstop]

end Text

/-! ## Numerals -/

/-- A run of one or more digits. -/
structure Digits where
  text : Text
  nonempty : text ≠ []
  digits : ∀ c ∈ text, c.isDigit = true

/-- The digits of a number. -/
def Digits.ofNat (n : Nat) : Digits := ⟨Text.ofNat n, Text.ofNat_ne_nil n, Text.isDigit_ofNat n⟩

/-- A numeral: a sign, whole digits without a zero in front, perhaps places after a point, perhaps
an exponent with a sign of its own. -/
structure Numeral where
  negative : Bool
  whole : Digits
  places : Option Digits
  exponent : Option (Bool × Digits)
  noZero : whole.text.head? = some ('0' : CodePoint) → whole.text = [CodePoint.ofChar '0']

namespace Numeral

variable (n : Numeral)

/-- A minus sign for what is negative. -/
def signText : Text := if n.negative then [CodePoint.ofChar '-'] else []

/-- The point and the places after it. -/
def fractionText : Text :=
  match n.places with
  | none => []
  | some ds => CodePoint.ofChar '.' :: ds.text

/-- The exponent with its mark. -/
def exponentText : Text :=
  match n.exponent with
  | none => []
  | some (negative, ds) =>
    CodePoint.ofChar 'e' :: CodePoint.ofChar (if negative then '-' else '+') :: ds.text

/-- The text of a numeral. -/
def toText : Text := n.signText ++ n.whole.text ++ n.fractionText ++ n.exponentText

/-- Whatever kind the exponent mark is not of ends before the exponent. -/
theorem ends_exponent {p : CodePoint → Bool} (hmark : p 'e' = false) {rest : Text}
    (hrest : Text.Ends p rest) : Text.Ends p (n.exponentText ++ rest) := by
  unfold exponentText
  cases n.exponent with
  | none => exact hrest
  | some exponent =>
      rintro c ⟨⟩
      exact hmark

/-- Whatever kind neither mark is of ends before the point. -/
theorem ends_fraction {p : CodePoint → Bool} (hpoint : p '.' = false) (hmark : p 'e' = false)
    {rest : Text} (hrest : Text.Ends p rest) :
    Text.Ends p (n.fractionText ++ (n.exponentText ++ rest)) := by
  unfold fractionText
  cases n.places with
  | none => exact n.ends_exponent hmark hrest
  | some ds =>
      rintro c ⟨⟩
      exact hpoint

/-- The whole part begins with a digit. -/
theorem exists_digit : ∃ d ds, n.whole.text = d :: ds ∧ d.isDigit = true := by
  cases h : n.whole.text with
  | nil => exact absurd h n.whole.nonempty
  | cons d ds => exact ⟨d, ds, rfl, n.whole.digits d (h ▸ List.mem_cons_self)⟩

end Numeral

end FacetSearch
