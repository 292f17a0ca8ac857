/-
# FacetSearch.Numeric.Shortest — the shortest decimal text of a double.

A double is written with the fewest significant digits that read back as the same double; of
several such texts the one nearest to the number is taken.  For one digit, two digits, and so on
up to seventeen, the two neighbours of the number on that decimal grid are read back; the first
grid with a hit wins.  How the digits are laid out is a record of its own, because log lines and
JSON spell infinity and not-a-number differently.
-/
import FacetSearch.Numeric.Digits

namespace FacetSearch

/-- How digits become text: the exponents from `leastPositional` up to but not including
`firstScaled` are written positionally, all others with an exponent of at least two digits. -/
structure FloatLayout where
  leastPositional : Int
  firstScaled : Int
  infinity : Text
  nan : Text

/-- Positional from `0.0001` to below `10 ^ 16`; the words are small letters. -/
def FloatLayout.plain : FloatLayout where
  leastPositional := -4
  firstScaled := 16
  infinity := "inf"
  nan := "nan"

namespace Binary64

open Digits

/-- The neighbours of a fraction on the grid of multiples of `10 ^ unit`, the nearer one first. -/
def gridNeighbours (n d : Nat) (unit : Int) : List Nat :=
  let (a, b) := inUnits n d unit
  let near := roundHalfEven a b
  let low := a / b
  if near = low then [low, low + 1] else [low + 1, low]

/-- The digits of a positive finite rank: a coefficient and a power of ten that read back as this
rank, with as few digits as any.  The exact decimal expansion stands behind the seventeen grids,
so there is always an answer. -/
def shortest (rank : Nat) : Nat × Int :=
  let (n, d) := fractionOf rank
  let lead := decimalExponent n d
  let onGrid (count : Nat) : Option (Nat × Int) :=
    let unit := lead - count
    ((gridNeighbours n d unit).find? fun c => rankOfDecimal c unit == rank).map fun c => (c, unit)
  match (List.range 17).findSome? onGrid with
  | some (c, e) => dropTrailingZeros c e
  | none =>
    let e := exponentOf rank
    if 0 ≤ e then (mantissaOf rank * Nat.pow 2 e.toNat, 0)
    else (mantissaOf rank * Nat.pow 5 (-e).toNat, e)

/-- The text of a power of ten: a sign and at least two digits. -/
def exponentText (e : Int) : Text :=
  (if e < 0 then "-" else "+") ++ (Text.ofNat e.natAbs).padLeft 2 '0'

/-- Digits with a point after the first `before` of them, zeros filled in on either side; a whole
number keeps one zero after the point. -/
def positional (ds : Text) (before : Int) : Text :=
  if before ≤ 0 then
    ("0." : Text) ++ List.replicate (-before).toNat (CodePoint.ofChar '0') ++ ds
  else
    let k := before.toNat
    if ds.length ≤ k then ds.padRight k '0' ++ ".0" else ds.take k ++ "." ++ ds.drop k

/-- Digits with a point after the first, and an exponent. -/
def scaled (ds : Text) (e : Int) : Text :=
  (match ds with
    | [] => []
    | [d] => [d]
    | d :: rest => d :: CodePoint.ofChar '.' :: rest) ++ "e" ++ exponentText e

/-- The text of a magnitude in a layout. -/
def magnitudeText (layout : FloatLayout) (rank : Nat) : Text :=
  if rank = 0 then "0.0"
  else if infinityRank ≤ rank then layout.infinity
  else
    let (c, unit) := shortest rank
    let ds := Text.ofNat c
    let lead := unit + ds.length - 1
    if layout.leastPositional ≤ lead ∧ lead < layout.firstScaled then positional ds (lead + 1)
    else scaled ds lead

/-- The text of a number in a layout. -/
def textIn (layout : FloatLayout) : Binary64 → Text
  | .number negative rank =>
    (if negative then "-" else "") ++ magnitudeText layout rank.val
  | .nan => layout.nan

/-- The text of a number with small words for infinity and not-a-number. -/
def toText (x : Binary64) : Text := x.textIn .plain

end Binary64

end FacetSearch
