/-
# FacetSearch.Numeric.Decimal — decimal numbers with their digits kept.

A decimal is a sign, a coefficient and a power of ten; `1.5` and `1.50` are equal in size and
different as decimals.  Prices are decimals, so they are compared exactly and rounded to a double
only when the query document is written.  Infinities and not-a-number exist as texts and as
arguments, never as prices.
-/
import FacetSearch.Text.Blank
import FacetSearch.Text.DecimalDigit
import FacetSearch.Numeric.Binary64

namespace FacetSearch

/-- A finite decimal: a sign, a coefficient and a power of ten. -/
structure Decimal where
  negative : Bool
  coefficient : Nat
  exponent : Int
  deriving DecidableEq, Repr

/-- A decimal, an infinity, or not-a-number with a payload; a signalling one may not even be
compared for equality. -/
inductive DecimalDatum where
  | finite (d : Decimal)
  | infinity (negative : Bool)
  | nan (negative signalling : Bool) (payload : Nat)
  deriving DecidableEq, Repr

namespace Decimal

/-- The decimal of an integer. -/
def ofInt (i : Int) : Decimal := ⟨i < 0, i.natAbs, 0⟩

/-- The exponent of the leading digit. -/
def adjusted (d : Decimal) : Int := d.exponent + Binary64.decimalDigits d.coefficient - 1

/-- Compares `c * 10 ^ e` with `c' * 10 ^ e'`.  Unequal leading exponents decide at once; equal
ones keep the difference of the exponents within the number of digits. -/
def compareMagnitudes (c : Nat) (e : Int) (c' : Nat) (e' : Int) : Ordering :=
  if c = 0 ∨ c' = 0 then compare c c'
  else
    let lead := e + Binary64.decimalDigits c - 1
    let lead' := e' + Binary64.decimalDigits c' - 1
    if lead ≠ lead' then compare lead lead'
    else
      let g := min e e'
      compare (c * Nat.pow 10 (e - g).toNat) (c' * Nat.pow 10 (e' - g).toNat)

/-- Compares by exact value; both zeros are equal. -/
def cmp (a b : Decimal) : Ordering :=
  let sizes := compareMagnitudes a.coefficient a.exponent b.coefficient b.exponent
  if a.coefficient = 0 ∧ b.coefficient = 0 then .eq
  else if a.coefficient = 0 then (if b.negative then .gt else .lt)
  else if b.coefficient = 0 then (if a.negative then .lt else .gt)
  else match a.negative, b.negative with
    | false, false => sizes
    | true, true => sizes.swap
    | true, false => .lt
    | false, true => .gt

/-- Exact order: `a` is less than `b`. -/
def lt (a b : Decimal) : Bool := a.cmp b == .lt

/-- The nearest double; magnitudes beyond the largest one become infinity. -/
def toBinary64 (d : Decimal) : Binary64 := .ofDecimal d.negative d.coefficient d.exponent

/-- The exact decimal expansion of a signed `m * 2 ^ e`. -/
def ofDyadic (negative : Bool) (m : Nat) (e : Int) : Decimal :=
  if 0 ≤ e then ⟨negative, m * Nat.pow 2 e.toNat, 0⟩
  else ⟨negative, m * Nat.pow 5 (-e).toNat, e⟩

/-- The integer that a decimal is, if it has no fractional part. -/
def toInt? (d : Decimal) : Option Int :=
  let sign (n : Nat) : Int := if d.negative then -n else n
  if d.coefficient = 0 then some 0
  else if 0 ≤ d.exponent then some (sign (d.coefficient * Nat.pow 10 d.exponent.toNat))
  else
    let k := (-d.exponent).toNat
    if Binary64.decimalDigits d.coefficient ≤ k then none
    else if d.coefficient % Nat.pow 10 k = 0 then some (sign (d.coefficient / Nat.pow 10 k))
    else none

/-- The integer left when the fractional part is dropped. -/
def truncate (d : Decimal) : Int :=
  let n :=
    if 0 ≤ d.exponent then d.coefficient * Nat.pow 10 d.exponent.toNat
    else if Binary64.decimalDigits d.coefficient ≤ (-d.exponent).toNat then 0
    else d.coefficient / Nat.pow 10 (-d.exponent).toNat
  if d.negative then -n else n

/-! ## Writing -/

/-- Digits with a point `point` places after their beginning, zeros filled in on either side. -/
def pointed (ds : Text) (point : Int) : Text :=
  if point ≤ 0 then ("0." : Text) ++ List.replicate (-point).toNat (CodePoint.ofChar '0') ++ ds
  else if ds.length ≤ point.toNat then ds.padRight point.toNat '0'
  else ds.take point.toNat ++ "." ++ ds.drop point.toNat

/-- Positional when the exponent is not positive and at most six places stand before the leading
digit, scaled with a mark `E` and a signed exponent otherwise. -/
def toText (d : Decimal) : Text :=
  let ds := Text.ofNat d.coefficient
  let lead := d.exponent + ds.length
  let point := if d.exponent ≤ 0 ∧ -6 < lead then lead else 1
  let tail : Text :=
    if lead = point then []
    else "E" ++ (if lead - point < 0 then "-" else "+") ++ Text.ofNat (lead - point).natAbs
  (if d.negative then "-" else "") ++ pointed ds point ++ tail

end Decimal

namespace DecimalDatum

/-- The finite decimal, if this is one. -/
def finite? : DecimalDatum → Option Decimal
  | .finite d => some d
  | _ => none

def isNan : DecimalDatum → Bool
  | .nan .. => true
  | _ => false

/-- The exact order of two data that are not not-a-number. -/
def cmp : DecimalDatum → DecimalDatum → Ordering
  | .finite a, .finite b => a.cmp b
  | .infinity s, .infinity t => if s = t then .eq else if s then .lt else .gt
  | .infinity s, _ => if s then .lt else .gt
  | _, .infinity t => if t then .gt else .lt
  | _, _ => .eq

/-- The exact decimal value of a double. -/
def ofBinary64 : Binary64 → DecimalDatum
  | .nan => .nan false false 0
  | .number negative rank =>
    if rank.val < infinityRank then
      .finite (Decimal.ofDyadic negative (Binary64.mantissaOf rank.val)
        (Binary64.exponentOf rank.val))
    else .infinity negative

/-- The text of a payload, empty for none. -/
def payloadText (n : Nat) : Text := if n = 0 then [] else Text.ofNat n

def toText : DecimalDatum → Text
  | .finite d => d.toText
  | .infinity negative => (if negative then "-" else "") ++ Text.ofString "Infinity"
  | .nan negative signalling payload =>
    (if negative then "-" else "") ++ (if signalling then "sNaN" else "NaN") ++ payloadText payload

/-! ## Reading

Blanks around a number are skipped, underscores are dropped wherever they stand, digits of every
script count.  The exponent of the leading digit may not exceed `999999999999999999`, and no digit
may stand below the place `10 ^ -1999999999999999997`. -/

/-- The largest exponent that a leading digit may have. -/
def maxExponent : Int := 999999999999999999

/-- The lowest place a digit may stand at. -/
def minPlace : Int := -1999999999999999997

/-- The ASCII form of a number text: underscores gone, digits of every script made ASCII.
A code point that belongs in no number makes it fail. -/
def asciiForm? : Text → Option Text
  | [] => some []
  | c :: rest =>
    if c = ('_' : CodePoint) then asciiForm? rest
    else if c.val = 0 then none
    else if c.val < 0x80 then (asciiForm? rest).map (c :: ·)
    else
      match c.decimalDigit? with
      | some d => (asciiForm? rest).map (CodePoint.hexDigit d :: ·)
      | none => none

/-- A sign and the rest. -/
def takeSign : Text → Bool × Text
  | [] => (false, [])
  | c :: rest =>
    if c = ('-' : CodePoint) then (true, rest)
    else if c = ('+' : CodePoint) then (false, rest)
    else (false, c :: rest)

/-- A text of one or more ASCII digits, with an optional sign, as an integer. -/
def signedDigits? (t : Text) : Option Int :=
  let (negative, ds) := takeSign t
  if ds ≠ [] ∧ ds.all CodePoint.isDigit then
    some (if negative then -(Text.digitsValue ds : Nat) else (Text.digitsValue ds : Nat))
  else none

/-- The exponent that stands after a mantissa: none, or a mark with a signed number. -/
def exponent? : Text → Option Int
  | [] => some 0
  | c :: rest => if c.toLower = ('e' : CodePoint) then signedDigits? rest else none

/-- The coefficient, the number of places after the point, and what follows the mantissa. -/
def mantissa? (t : Text) : Option (Nat × Nat × Text) :=
  let whole := t.takeWhile CodePoint.isDigit
  let rest := t.dropWhile CodePoint.isDigit
  let (places, rest) := match rest with
    | [] => ([], [])
    | c :: after =>
      if c = ('.' : CodePoint) then
        (after.takeWhile CodePoint.isDigit, after.dropWhile CodePoint.isDigit)
      else ([], rest)
  if whole = [] ∧ places = [] then none
  else some (Text.digitsValue (whole ++ places), places.length, rest)

/-- A finite number in range, from its sign and the text after it. -/
def finiteText? (negative : Bool) (t : Text) : Option Decimal :=
  match mantissa? t with
  | none => none
  | some (c, places, rest) =>
    match exponent? rest with
    | none => none
    | some e =>
      let d : Decimal := ⟨negative, c, e - places⟩
      let inRange := minPlace ≤ d.exponent ∧
        (if c = 0 then d.exponent ≤ maxExponent else d.adjusted ≤ maxExponent)
      if inRange then some d else none

/-- The words for infinity and not-a-number, in any case. -/
def special? (negative : Bool) (t : Text) : Option DecimalDatum :=
  let t := t.lower
  if t = "inf" ∨ t = "infinity" then some (.infinity negative)
  else
    let payload? (signalling : Bool) (ds : Text) : Option DecimalDatum :=
      if ds.all CodePoint.isDigit then some (.nan negative signalling (Text.digitsValue ds))
      else none
    match Text.dropLead? "nan" t, Text.dropLead? "snan" t with
    | some ds, _ => payload? false ds
    | none, some ds => payload? true ds
    | none, none => none

/-- Reads the text of a number. -/
def ofText? (t : Text) : Option DecimalDatum :=
  match asciiForm? t.trimBlank with
  | none => none
  | some t =>
    let (negative, t) := takeSign t
    match special? negative t with
    | some d => some d
    | none => (finiteText? negative t).map .finite

end DecimalDatum

end FacetSearch
