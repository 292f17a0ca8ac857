/-
# FacetSearch.Text.Blank — the two classes of blank code points.

`isWhite` is the Unicode property White_Space.  `isBlank` adds the four information separators
U+001C to U+001F; it decides whether a search text or a product id counts as empty.  Zero-width
code points (U+200B, U+FEFF, U+180E) belong to neither.
-/
import FacetSearch.Text.Basic

namespace FacetSearch

namespace CodePoint

/-- Ranges of the Unicode property White_Space. -/
def whiteRanges : List (Nat × Nat) :=
  [(0x09, 0x0D), (0x20, 0x20), (0x85, 0x85), (0xA0, 0xA0), (0x1680, 0x1680), (0x2000, 0x200A),
    (0x2028, 0x2029), (0x202F, 0x202F), (0x205F, 0x205F), (0x3000, 0x3000)]

/-- The Unicode property White_Space. -/
def isWhite (c : CodePoint) : Bool :=
  whiteRanges.any fun (low, high) => low ≤ c.val && c.val ≤ high

/-- White space and the information separators U+001C to U+001F. -/
def isBlank (c : CodePoint) : Bool :=
  c.isWhite || (0x1C ≤ c.val && c.val ≤ 0x1F)

end CodePoint

namespace Text

/-- Drops the code points of a class from both ends. -/
def trimBy (p : CodePoint → Bool) (t : Text) : Text :=
  ((t.dropWhile p).reverse.dropWhile p).reverse

/-- Drops blank code points from both ends. -/
def trimBlank (t : Text) : Text := t.trimBy CodePoint.isBlank

/-- Drops white space from both ends. -/
def trimWhite (t : Text) : Text := t.trimBy CodePoint.isWhite

/-- A text is blank when nothing but blank code points stands in it. -/
def isBlank (t : Text) : Bool := t.all CodePoint.isBlank

end Text

end FacetSearch
