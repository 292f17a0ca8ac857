/-
# FacetSearch.Http.Target — what a request asks for.

The target of a request is a path, read from its percent-encoded form, and a query that is kept as
it came.  The address of a target spells the question mark, the number sign and the backslash of the
path in percent form, so that the query begins at the first question mark, and begins a path that is
not empty with a slash, so that the path does not run into the host.
-/
import FacetSearch.Text.Utf8

namespace FacetSearch

/-- The path and the query of a request. -/
structure Target where
  path : Text
  query : Text
  deriving DecidableEq, Repr

namespace Target

/-- The bytes of a text in which two hexadecimal digits after a percent sign stand for a byte. -/
def percentDecode : Text → List UInt8
  | c :: a :: b :: rest =>
    if c = ('%' : CodePoint) then
      match a.hexValue?, b.hexValue? with
      | some high, some low => UInt8.ofNat (16 * high + low) :: percentDecode rest
      | _, _ => Utf8.encodePoint c ++ percentDecode (a :: b :: rest)
    else Utf8.encodePoint c ++ percentDecode (a :: b :: rest)
  | c :: rest => Utf8.encodePoint c ++ percentDecode rest
  | [] => []

/-- A byte in percent form. -/
def percentByte (b : UInt8) : Text := ('%' : CodePoint) :: (Text.ofHex b.toNat 2).upper

/-- The code points that may stand for themselves anywhere in an address. -/
def isPlain (c : CodePoint) : Bool :=
  c.isLetter || c.isDigit || (Text.ofString "_.-~:/%#?=@[]!$&'()*+,;").contains c

/-- A text with all that is not plain in percent form. -/
def percentEncode (t : Text) : Text :=
  t.flatMap fun c => if isPlain c then [c] else (Utf8.encodePoint c).flatMap percentByte

/-- The target that is written before and after the first question mark. -/
def ofText (t : Text) : Target :=
  let (path, query) := (Text.cutFirst '?' t).getD (t, [])
  ⟨Utf8.decodeLossy (percentDecode path), query⟩

/-- A path that begins with a slash, unless it is empty. -/
def rooted (path : Text) : Text :=
  if path.isEmpty || path.head? == some ('/' : CodePoint) then path
  else CodePoint.ofChar '/' :: path

/-- The path as it stands in an address. -/
def safePath (t : Target) : Text :=
  (rooted t.path).flatMap fun c =>
    if (Text.ofString "?#\\").contains c then (Utf8.encodePoint c).flatMap percentByte else [c]

/-- The full address of a target, given scheme and host. -/
def address (t : Target) (origin : Text) : Text :=
  origin ++ t.safePath ++ (if t.query = [] then [] else CodePoint.ofChar '?' :: t.query)

/-- Tabs and line ends, which have no place in an address. -/
def isLineControl (c : CodePoint) : Bool := c.val = 0x09 || c.val = 0x0A || c.val = 0x0D

/-- The path of the address, without tabs and line ends. -/
def shownPath (t : Target) : Text := t.safePath.filter fun c => !isLineControl c

/-- The target without the slashes at the end of its path. -/
def trimmed (t : Target) : Target :=
  { t with path := (t.path.reverse.dropWhile (· = ('/' : CodePoint))).reverse }

/-- The full address in a form that a header may carry. -/
def location (t : Target) (origin : Text) : Text := percentEncode (t.address origin)

end Target

end FacetSearch
