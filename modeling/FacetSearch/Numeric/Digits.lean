/-
# FacetSearch.Numeric.Digits — decimal digits of exact fractions.

Printing a double starts from its exact fraction: how many digits stand before the point, the
number rounded to so many places, or to so many significant digits.
-/
import FacetSearch.Text.Basic
import FacetSearch.Numeric.Binary64

namespace FacetSearch.Digits

open Binary64 (decadic)

/-- The greatest `e` with `10 ^ e ≤ n / d`, for positive `n` and `d`: a bound from the binary
exponent, raised as long as the next power still fits. -/
def decimalExponent (n d : Nat) : Int :=
  let low := (Binary64.binaryExponent n d * 30103).fdiv 100000 - 1
  let raise (e : Int) : Int :=
    let (a, b) := decadic 1 (e + 1)
    if d * a ≤ n * b then e + 1 else e
  raise (raise (raise low))

/-- The fraction `n / d` measured in units of `10 ^ unit`. -/
def inUnits (n d : Nat) (unit : Int) : Nat × Nat :=
  let (a, b) := decadic 1 unit
  (n * b, d * a)

/-- The fraction rounded to a multiple of `10 ^ unit`, as that multiple, a tie to the even one. -/
def roundToUnit (n d : Nat) (unit : Int) : Nat :=
  let (a, b) := inUnits n d unit
  roundHalfEven a b

/-- The fraction rounded to `count` significant digits: the coefficient and its exponent.
A coefficient that rounds up to one digit more is brought back to `count` digits. -/
def roundSignificant (n d count : Nat) : Nat × Int :=
  if n = 0 then (0, 1 - count)
  else
    let unit := decimalExponent n d - count + 1
    let c := roundToUnit n d unit
    if c = Nat.pow 10 count then (c / 10, unit + 1) else (c, unit)

/-- A coefficient without its trailing zeros, its exponent raised to match. -/
def dropTrailingZeros (c : Nat) (e : Int) : Nat × Int :=
  if h : c ≠ 0 ∧ c % 10 = 0 then dropTrailingZeros (c / 10) (e + 1) else (c, e)
termination_by c
decreasing_by omega

/-- The coefficient of `10 ^ -places` written with a point before the last `places` digits. -/
def withPlaces (c places : Nat) : Text :=
  let ds := (Text.ofNat c).padLeft (places + 1) '0'
  let whole := ds.take (ds.length - places)
  if places = 0 then whole else whole ++ "." ++ ds.drop (ds.length - places)

end FacetSearch.Digits
