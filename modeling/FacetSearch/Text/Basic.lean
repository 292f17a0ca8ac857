/-
# FacetSearch.Text.Basic — texts as lists of code points.

A text is the list of its code points, surrogates included.  A JSON escape may spell a lone
surrogate, and such a text travels through the service until something has to write it as UTF-8;
a list of scalar values could not carry it.  Everything else here is the small vocabulary that the
readers and printers of the library share: literals, ASCII digits, cutting at a separator.
-/

namespace FacetSearch

/-- A Unicode code point, surrogates included. -/
abbrev CodePoint := Fin 0x110000

/-- A text is the list of its code points, in order. -/
abbrev Text := List CodePoint

namespace CodePoint

/-- The code point of a number below `0x110000`. -/
def ofNat (n : Nat) : CodePoint := Fin.ofNat 0x110000 n

/-- The code point of a character. -/
def ofChar (c : Char) : CodePoint := ofNat c.toNat

instance : Coe Char CodePoint := ⟨ofChar⟩

/-- High and low surrogates, the code points that UTF-8 cannot spell. -/
def isSurrogate (c : CodePoint) : Bool := 0xD800 ≤ c.val && c.val ≤ 0xDFFF

/-- The ASCII digits `0` to `9`. -/
def isDigit (c : CodePoint) : Bool := 0x30 ≤ c.val && c.val ≤ 0x39

/-- The value of an ASCII digit. -/
def digitValue (c : CodePoint) : Nat := c.val - 0x30

/-- The ASCII letters. -/
def isLetter (c : CodePoint) : Bool :=
  (0x41 ≤ c.val && c.val ≤ 0x5A) || (0x61 ≤ c.val && c.val ≤ 0x7A)

/-- An ASCII capital becomes small, every other code point stays. -/
def toLower (c : CodePoint) : CodePoint :=
  if 0x41 ≤ c.val && c.val ≤ 0x5A then ofNat (c.val + 0x20) else c

/-- An ASCII small letter becomes capital, every other code point stays. -/
def toUpper (c : CodePoint) : CodePoint :=
  if 0x61 ≤ c.val && c.val ≤ 0x7A then ofNat (c.val - 0x20) else c

/-- The value of a hexadecimal digit of either case. -/
def hexValue? (c : CodePoint) : Option Nat :=
  if c.isDigit then some (c.val - 0x30)
  else if 0x41 ≤ c.val && c.val ≤ 0x46 then some (c.val - 0x37)
  else if 0x61 ≤ c.val && c.val ≤ 0x66 then some (c.val - 0x57)
  else none

/-- The small hexadecimal digit of a number below sixteen. -/
def hexDigit (n : Nat) : CodePoint :=
  if n < 10 then ofNat (0x30 + n) else ofNat (0x57 + n)

end CodePoint

namespace Text

/-- The code points of a string. -/
def ofString (s : String) : Text := s.toList.map CodePoint.ofChar

instance : Coe String Text := ⟨ofString⟩

/-- The text of a natural number in decimal digits. -/
def ofNat (n : Nat) : Text := (Nat.toDigits 10 n).map CodePoint.ofChar

/-- The text of an integer: a minus sign if it is negative, then its digits. -/
def ofInt : Int → Text
  | .ofNat n => ofNat n
  | .negSucc n => CodePoint.ofChar '-' :: ofNat (n + 1)

/-- The most decimal digits that an integer may have to be written or read. -/
def maxDigits : Nat := 4300

/-- The text of a number in exactly `width` hexadecimal digits, high digits dropped. -/
def ofHex (n : Nat) : (width : Nat) → Text
  | 0 => []
  | width + 1 => ofHex (n / 16) width ++ [CodePoint.hexDigit (n % 16)]

/-- ASCII capitals made small. -/
def lower (t : Text) : Text := t.map CodePoint.toLower

/-- ASCII small letters made capital. -/
def upper (t : Text) : Text := t.map CodePoint.toUpper

/-- The number that a run of ASCII digits writes in base ten. -/
def digitsValue (ds : Text) : Nat := ds.foldl (fun n d => 10 * n + d.digitValue) 0

/-- Fills with `fill` on the left up to `width`. -/
def padLeft (width : Nat) (fill : CodePoint) (t : Text) : Text :=
  List.replicate (width - t.length) fill ++ t

/-- Fills with `fill` on the right up to `width`. -/
def padRight (width : Nat) (fill : CodePoint) (t : Text) : Text :=
  t ++ List.replicate (width - t.length) fill

/-- What stands before and after the first occurrence of a separator, if there is one. -/
def cutFirst (sep : CodePoint) : Text → Option (Text × Text)
  | [] => none
  | c :: rest =>
    if c = sep then some ([], rest)
    else (cutFirst sep rest).map fun (before, after) => (c :: before, after)

/-- What stands before and after the last occurrence of a separator, if there is one. -/
def cutLast (sep : CodePoint) : Text → Option (Text × Text)
  | [] => none
  | c :: rest =>
    match cutLast sep rest with
    | some (before, after) => some (c :: before, after)
    | none => if c = sep then some ([], rest) else none

/-- The pieces between the occurrences of a separator, at least one piece. -/
def splitOn (sep : CodePoint) : Text → List Text
  | [] => [[]]
  | c :: rest =>
    match splitOn sep rest with
    | [] => [[c]]
    | piece :: pieces => if c = sep then [] :: piece :: pieces else (c :: piece) :: pieces

/-- The rest of a text after a given beginning, if it begins that way. -/
def dropLead? : (lead t : Text) → Option Text
  | [], t => some t
  | _ :: _, [] => none
  | a :: lead, c :: t => if a = c then dropLead? lead t else none

/-- The texts of a list with a separator between neighbours. -/
def join (sep : Text) : List Text → Text
  | [] => []
  | [t] => t
  | t :: rest => t ++ sep ++ join sep rest

/-- Whether every code point is ASCII. -/
def isAscii (t : Text) : Bool := t.all (·.val < 0x80)

/-- Whether a text can be written as UTF-8: it holds no surrogate. -/
def isScalar (t : Text) : Bool := t.all (!·.isSurrogate)

end Text

/-- An integer that is short enough to be written or read in decimal digits. -/
def ShortInteger (n : Int) : Prop := (Nat.toDigits 10 n.natAbs).length ≤ Text.maxDigits

instance (n : Int) : Decidable (ShortInteger n) := inferInstanceAs (Decidable (_ ≤ _))

end FacetSearch
