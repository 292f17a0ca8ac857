/-
# FacetSearch.Numeric.Binary64 — IEEE binary64 numbers, exactly.

Prices, scores and durations are double-precision numbers.  They are held here by *rank*: the
non-negative doubles, infinity last, are numbered from zero in increasing order, so that the
neighbour of a number is the next rank and rounding is a choice between two ranks.  All arithmetic
is done exactly on fractions and rounded once, to nearest, a tie to the even mantissa; nothing
rests on the machine's floating-point unit.
-/

namespace FacetSearch

/-- How many ranks each binade of normal numbers takes, and how many lie below the first of them:
`2 ^ 52`. -/
def binadeSize : Nat := 0x10000000000000

/-- The rank of infinity: 2047 times as many finite magnitudes as a binade has lie below it. -/
def infinityRank : Nat := 2047 * binadeSize

/-- A binary64 number.  Zero has two signs, and all payloads of not-a-number are one. -/
inductive Binary64 where
  | number (negative : Bool) (rank : Fin (infinityRank + 1))
  | nan
  deriving DecidableEq, Repr

/-- The whole number nearest to `n / d`, a tie going to the even one. -/
def roundHalfEven (n d : Nat) : Nat :=
  let q := n / d
  let r := n % d
  if 2 * r < d then q else if d < 2 * r then q + 1 else q + q % 2

namespace Binary64

/-! ## Ranks and the fractions they stand for -/

/-- The mantissa of a finite rank: below `2 ^ 53`, and at least `2 ^ 52` for a normal number. -/
def mantissaOf (rank : Nat) : Nat :=
  if rank < binadeSize then rank else binadeSize + rank % binadeSize

/-- The power of two that scales the mantissa of a finite rank. -/
def exponentOf (rank : Nat) : Int :=
  if rank < binadeSize then -1074 else (rank / binadeSize : Nat) - 1075

/-- The fraction `m * 2 ^ e`. -/
def dyadic (m : Nat) (e : Int) : Nat × Nat :=
  if 0 ≤ e then (m * Nat.pow 2 e.toNat, 1) else (m, Nat.pow 2 (-e).toNat)

/-- The fraction that a finite rank stands for. -/
def fractionOf (rank : Nat) : Nat × Nat := dyadic (mantissaOf rank) (exponentOf rank)

/-- The greatest `e` with `2 ^ e ≤ n / d`, for positive `n` and `d`. -/
def binaryExponent (n d : Nat) : Int :=
  let e : Int := (n.log2 : Int) - d.log2
  let (a, b) := dyadic 1 e
  if n * b < d * a then e - 1 else e

/-- The rank nearest to the fraction `n / d`.  The mantissa is rounded on the grid of the
fraction's own binade, or on the finest grid below the normal numbers; a mantissa that rounds up
to `2 ^ 53` carries into the next binade by the choice of the numbering. -/
def rankOfFraction (n d : Nat) : Nat :=
  if n = 0 then 0
  else
    let grid := max (binaryExponent n d - 52) (-1074)
    let (a, b) := dyadic 1 grid
    min ((grid + 1074).toNat * binadeSize + roundHalfEven (n * b) (d * a)) infinityRank

/-- The number of a sign and a rank, ranks past infinity being infinity. -/
def ofRank (negative : Bool) (rank : Nat) : Binary64 :=
  .number negative ⟨min rank infinityRank, Nat.lt_succ_of_le (Nat.min_le_right ..)⟩

/-- The number nearest to a signed fraction. -/
def ofFraction (negative : Bool) (n d : Nat) : Binary64 := ofRank negative (rankOfFraction n d)

/-- The number nearest to a signed `m * 2 ^ e`. -/
def ofDyadic (negative : Bool) (m : Nat) (e : Int) : Binary64 :=
  let (n, d) := dyadic m e
  ofFraction negative n d

/-! ## Decimal scale -/

/-- How many decimal digits a natural number has; one for zero. -/
def decimalDigits (n : Nat) : Nat := (Nat.toDigits 10 n).length

/-- The fraction `c * 10 ^ e`. -/
def decadic (c : Nat) (e : Int) : Nat × Nat :=
  if 0 ≤ e then (c * Nat.pow 10 e.toNat, 1) else (c, Nat.pow 10 (-e).toNat)

/-- The rank nearest to `c * 10 ^ e`.  Numbers from `10 ^ 309` up are above every finite double
and numbers below `10 ^ -324` round to zero, so no large power is ever built. -/
def rankOfDecimal (c : Nat) (e : Int) : Nat :=
  if c = 0 then 0
  else
    let lead := e + decimalDigits c - 1
    if 308 < lead then infinityRank
    else if lead < -324 then 0
    else
      let (n, d) := decadic c e
      rankOfFraction n d

/-- The number nearest to a signed `c * 10 ^ e`. -/
def ofDecimal (negative : Bool) (c : Nat) (e : Int) : Binary64 :=
  ofRank negative (rankOfDecimal c e)

/-! ## Views -/

def zero : Binary64 := ofRank false 0

/-- The infinity of a sign. -/
def infinity (negative : Bool) : Binary64 := ofRank negative infinityRank

/-- Finite numbers are neither infinite nor not-a-number. -/
def isFinite : Binary64 → Bool
  | .number _ rank => rank.val < infinityRank
  | .nan => false

/-- The sign and the exact fraction of a finite number. -/
def fraction? : Binary64 → Option (Bool × Nat × Nat)
  | .number negative rank =>
    if rank.val < infinityRank then some (negative, fractionOf rank.val) else none
  | .nan => none

/-- The signed mantissa and the exponent of a finite number. -/
def signedDyadic? : Binary64 → Option (Int × Int)
  | .number negative rank =>
    if rank.val < infinityRank then
      let m : Int := mantissaOf rank.val
      some (if negative then -m else m, exponentOf rank.val)
    else none
  | .nan => none

/-- The whole number that a finite number is, if it has no fractional part. -/
def toInt? (x : Binary64) : Option Int :=
  match x.fraction? with
  | some (negative, n, d) =>
    if n % d = 0 then some (if negative then -(n / d : Nat) else (n / d : Nat)) else none
  | none => none

/-- The whole number left when the fractional part of a finite number is dropped. -/
def truncate? (x : Binary64) : Option Int :=
  x.fraction?.map fun (negative, n, d) => if negative then -(n / d : Nat) else (n / d : Nat)

/-- A finite number rounded to the nearest integer, a tie to the even one. -/
def round? (x : Binary64) : Option Int :=
  x.fraction?.map fun (negative, n, d) =>
    let m : Int := roundHalfEven n d
    if negative then -m else m

/-- The greatest whole number that is not above a finite number. -/
def floor? (x : Binary64) : Option Int :=
  x.fraction?.map fun (negative, n, d) =>
    if negative then -((n + d - 1) / d : Nat) else (n / d : Nat)

/-- The number nearest to an integer. -/
def ofInt (i : Int) : Binary64 := ofFraction (i < 0) i.natAbs 1

/-! ## Arithmetic -/

/-- The number nearest to `m * 2 ^ e`, a zero taking the given sign. -/
def ofSignedDyadic (zeroNegative : Bool) (m e : Int) : Binary64 :=
  ofDyadic (if m = 0 then zeroNegative else m < 0) m.natAbs e

def neg : Binary64 → Binary64
  | .number negative rank => .number (!negative) rank
  | .nan => .nan

/-- The exact sum, rounded once. -/
def add (a b : Binary64) : Binary64 :=
  match a, b with
  | .nan, _ => .nan
  | _, .nan => .nan
  | .number s _, .number t _ =>
    match a.signedDyadic?, b.signedDyadic? with
    | some (m, e), some (n, f) =>
      let g := min e f
      ofSignedDyadic (s && t) (m * Nat.pow 2 (e - g).toNat + n * Nat.pow 2 (f - g).toNat) g
    | none, none => if s = t then a else .nan
    | none, some _ => a
    | some _, none => b

def sub (a b : Binary64) : Binary64 := a.add b.neg

/-- The exact product, rounded once; zero times infinity is not a number. -/
def mul (a b : Binary64) : Binary64 :=
  match a, b with
  | .number s p, .number t q =>
    match a.signedDyadic?, b.signedDyadic? with
    | some (m, e), some (n, f) => ofSignedDyadic (s != t) (m * n) (e + f)
    | _, _ => if p.val = 0 ∨ q.val = 0 then .nan else infinity (s != t)
  | _, _ => .nan

end Binary64

end FacetSearch
