/-
# FacetSearch.Text.Quoted — texts and byte strings as quoted literals.

Inside lists, dictionaries and log messages a text appears quoted: between single quotes, or
between double quotes if it holds a single quote and no double quote.  The backslash, the quote in
use and what is not printable are escaped, so the literal is one printable line.
-/
import FacetSearch.Text.Printable

namespace FacetSearch.Quoted

/-- The quote that a literal uses, by whether its content holds single and double quotes. -/
def quoteFor (hasSingle hasDouble : Bool) : CodePoint :=
  if hasSingle && !hasDouble then '"' else '\''

/-- The shortest escape of a code point that is not printable: two, four or eight hexadecimal
digits. -/
def escapeHex (c : CodePoint) : Text :=
  if c.val < 0x100 then "\\x" ++ Text.ofHex c.val 2
  else if c.val < 0x10000 then "\\u" ++ Text.ofHex c.val 4
  else "\\U" ++ Text.ofHex c.val 8

/-- One code point of a literal with the given quote. -/
def escape (quote c : CodePoint) : Text :=
  if c = quote ∨ c = '\\' then ['\\', c]
  else if c = '\n' then "\\n"
  else if c = '\r' then "\\r"
  else if c = '\t' then "\\t"
  else if c.isPrintable then [c]
  else escapeHex c

/-- The quoted literal of a text. -/
def ofText (t : Text) : Text :=
  let quote := quoteFor (t.contains '\'') (t.contains '"')
  quote :: t.flatMap (escape quote) ++ [quote]

/-- One byte of a literal with the given quote: ASCII as in a text, all else in two digits. -/
def escapeByte (quote : CodePoint) (b : UInt8) : Text :=
  let c : CodePoint := CodePoint.ofNat b.toNat
  if c.val < 0x80 then escape quote c else escapeHex c

/-- The quoted literal of a byte string, marked by a leading `b`. -/
def ofBytes (bytes : List UInt8) : Text :=
  let quote := quoteFor (bytes.contains 0x27) (bytes.contains 0x22)
  ('b' : CodePoint) :: quote :: bytes.flatMap (escapeByte quote) ++ [quote]

end FacetSearch.Quoted
