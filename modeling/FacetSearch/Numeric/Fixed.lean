/-
# FacetSearch.Numeric.Fixed — doubles with a given precision.

A double is rounded to so many places after the point or to so many significant digits, a tie to
the even digit.  Three notations show the result: fixed, scientific, and the general one that
chooses between them by the size of the number and leaves trailing zeros out.
-/
import FacetSearch.Numeric.Shortest

namespace FacetSearch.Binary64

/-- How a number with a given precision is written. -/
inductive NumberForm where
  | fixed
  | scientific
  | general
  deriving DecidableEq, Repr

/-- A point at the end of a text that has none, if it has to be shown. -/
def endPoint (shown : Bool) (t : Text) : Text := if shown then t ++ "." else t

/-- A fraction with exactly `places` digits after the point. -/
def fixedFraction (pointShown : Bool) (places n d : Nat) : Text :=
  let digits := Digits.withPlaces (Digits.roundToUnit n d (-places)) places
  if places = 0 then endPoint pointShown digits else digits

/-- Significant digits with a point after the first, and the exponent of the first. -/
def scientificDigits (pointShown : Bool) (ds : Text) (exponent : Int) : Text :=
  (match ds with
    | [] => []
    | [d] => endPoint pointShown [d]
    | d :: rest => d :: CodePoint.ofChar '.' :: rest) ++ "e" ++ exponentText exponent

/-- The significant digits of a fraction, `count` of them, and the exponent of the first. -/
def significant (count n d : Nat) : Text × Int :=
  let (c, unit) := Digits.roundSignificant n d count
  ((Text.ofNat c).padLeft count '0', if n = 0 then 0 else unit + count - 1)

/-- A fraction with one digit before and `places` digits after the point. -/
def scientificFraction (pointShown : Bool) (places n d : Nat) : Text :=
  let (ds, exponent) := significant (places + 1) n d
  scientificDigits pointShown ds exponent

/-- Digits without the zeros at their end, one digit kept. -/
def withoutTrailingZeros (ds : Text) : Text :=
  match (ds.reverse.dropWhile (· = ('0' : CodePoint))).reverse with
  | [] => ds.take 1
  | kept => kept

/-- Digits with the point after the first `before` of them. -/
def pointedDigits (pointShown : Bool) (ds : Text) (before : Int) : Text :=
  if before ≤ 0 then ("0." : Text) ++ List.replicate (-before).toNat (CodePoint.ofChar '0') ++ ds
  else
    let k := before.toNat
    let whole := Text.padRight k '0' (ds.take k)
    match ds.drop k with
    | [] => endPoint pointShown whole
    | rest => whole ++ "." ++ rest

/-- A fraction with `count` significant digits: with an exponent if it is below `0.0001` or if its
digits do not reach the point, and without trailing zeros unless the point is to be shown. -/
def generalFraction (pointShown : Bool) (count n d : Nat) : Text :=
  let (all, exponent) := significant count n d
  let ds := if pointShown then all else withoutTrailingZeros all
  if exponent < -4 ∨ (count : Int) ≤ exponent then scientificDigits pointShown ds exponent
  else pointedDigits pointShown ds (exponent + 1)

/-- A fraction in a notation; the general one counts at least one significant digit. -/
def fractionText (form : NumberForm) (pointShown : Bool) (precision n d : Nat) : Text :=
  match form with
  | .fixed => fixedFraction pointShown precision n d
  | .scientific => scientificFraction pointShown precision n d
  | .general => generalFraction pointShown (max precision 1) n d

/-- The text of a number in a notation. -/
def formatted (form : NumberForm) (pointShown : Bool) (precision : Nat) : Binary64 → Text
  | .nan => "nan"
  | .number negative rank =>
    (if negative then "-" else "") ++
      (if infinityRank ≤ rank.val then Text.ofString "inf"
        else
          let (n, d) := fractionOf rank.val
          fractionText form pointShown precision n d)

/-- The text of a number with exactly `places` digits after the point. -/
def fixedText (places : Nat) (x : Binary64) : Text := x.formatted .fixed false places

/-- The double nearest to a number rounded to `places` digits after the point. -/
def roundPlaces (places : Nat) : Binary64 → Binary64
  | .nan => .nan
  | .number negative rank =>
    if infinityRank ≤ rank.val then .number negative rank
    else
      let (n, d) := fractionOf rank.val
      ofDecimal negative (Digits.roundToUnit n d (-places)) (-places)

end FacetSearch.Binary64
