/-
# FacetSearch.Numeric.Integer — integers and doubles from lenient text.

An offset or a taxon id may arrive as text.  What is an integer as it stands is taken as such.  Any
other text is cleaned first: white space around it goes, a plus sign, zeros and underscores in front
of the first digit that counts, zeros after a point, and single underscores between digits; what is
left has to be an integer as it stands.  More than 4300 characters are too many.  Scores are read by
the usual grammar of floating-point texts.
-/
import FacetSearch.Text.Blank
import FacetSearch.Numeric.Decimal

namespace FacetSearch

/-- What a text says as an integer. -/
inductive IntegerReading where
  | value (n : Int)
  | tooLong
  | malformed
  deriving DecidableEq, Repr

namespace IntegerReading

/-- The most characters that an integer may be written with, its minus sign included. -/
def maxLength : Nat := 4300

/-- Reads an integer that stands alone: a minus sign if it is negative, then its digits, of which
the first is zero only if there is no other.  Digits beyond the limit are too many, whatever comes
after them. -/
def ofPlain (t : Text) : IntegerReading :=
  let negative := t.head? == some ('-' : CodePoint)
  let rest := if negative then t.drop 1 else t
  let ds := rest.takeWhile CodePoint.isDigit
  let sign := if negative then 1 else 0
  let isZero := ds.head? == some ('0' : CodePoint)
  if ds.isEmpty then .malformed
  else if isZero then if rest.length = 1 then .value 0 else .malformed
  else if maxLength < sign + ds.length then .tooLong
  else if ds.length ≠ rest.length then .malformed
  else .value (if negative then -(Text.digitsValue ds : Nat) else (Text.digitsValue ds : Nat))

/-- What follows a leading zero, from where it counts: at a digit or a minus sign, or one place
before a point.  A text of zeros counts from its last place on.  `last` is the place before. -/
def fromFirstCounting (last : CodePoint) : Text → Option Text
  | [] => some [last]
  | c :: rest =>
    if c = ('0' : CodePoint) ∨ c = ('_' : CodePoint) then fromFirstCounting c rest
    else if c.isDigit ∨ c = ('-' : CodePoint) then some (c :: rest)
    else if c = ('.' : CodePoint) then some (last :: c :: rest)
    else none

/-- A text that begins with a digit, without the zeros in front. -/
def withoutZeros? : Text → Option Text
  | [] => none
  | c :: rest =>
    if c = ('0' : CodePoint) then fromFirstCounting c rest
    else if c.isDigit then some (c :: rest)
    else none

/-- What stands before a point that only zeros follow; any other text as it is. -/
def withoutPlaces (t : Text) : Text :=
  match t.cutFirst '.' with
  | some (whole, places) =>
    if places ≠ [] ∧ places.all (· = ('0' : CodePoint)) then whole else t
  | none => t

/-- A text without its underscores, none of which may stand at an end or beside another. -/
def withoutUnderscores? (t : Text) : Option Text :=
  let pieces := t.splitOn '_'
  if pieces.length = 1 ∨ pieces.all (· ≠ []) then some pieces.flatten else none

/-- A text cleaned of everything that may stand around the digits. -/
def cleaned? (t : Text) : Option Text :=
  let (negative, unsigned) := DecimalDatum.takeSign t.trimWhite
  ((withoutZeros? unsigned).bind fun t => withoutUnderscores? (withoutPlaces t)).map fun t =>
    if negative then CodePoint.ofChar '-' :: t else t

/-- Reads an integer from text. -/
def ofText (t : Text) : IntegerReading :=
  match ofPlain t with
  | .malformed => ((cleaned? t).map ofPlain).getD .malformed
  | reading => reading

end IntegerReading

namespace Binary64

/-- The words for infinity and not-a-number, in any case. -/
def special? (negative : Bool) (t : Text) : Option Binary64 :=
  let t := t.lower
  if t = "inf" ∨ t = "infinity" then some (infinity negative)
  else if t = "nan" then some .nan
  else none

/-- Reads a floating-point text: a sign, digits with an optional point and exponent, or a word. -/
def ofText? (t : Text) : Option Binary64 :=
  let (negative, t) := DecimalDatum.takeSign t
  match special? negative t with
  | some x => some x
  | none =>
    match DecimalDatum.mantissa? t with
    | none => none
    | some (c, places, rest) =>
      (DecimalDatum.exponent? rest).map fun e => ofDecimal negative c (e - places)

/-- Reads a floating-point text with white space around it, or one with single underscores
inside. -/
def ofLenientText? (t : Text) : Option Binary64 :=
  match ofText? t.trimWhite with
  | some x => some x
  | none =>
    let pieces := t.splitOn '_'
    if pieces.all (· ≠ []) then ofText? pieces.flatten else none

/-- A text without its underscores, each of which must stand between two digits. -/
def joinedDigits? (afterDigit : Bool) : Text → Option Text
  | [] => some []
  | c :: rest =>
    if c = ('_' : CodePoint) then
      if afterDigit && rest.head?.any CodePoint.isDigit then joinedDigits? false rest else none
    else (joinedDigits? c.isDigit rest).map (c :: ·)

/-- Reads a floating-point text with white space around it, with digits of any script, and with
underscores between digits. -/
def ofNumeral? (t : Text) : Option Binary64 :=
  (joinedDigits? false (t.trimWhite.map CodePoint.toAsciiDigit)).bind ofText?

end Binary64

end FacetSearch
