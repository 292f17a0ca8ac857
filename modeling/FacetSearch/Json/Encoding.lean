/-
# FacetSearch.Json.Encoding — the text of a JSON body.

A body is UTF-8 unless a byte-order mark or the zero bytes among its first four say that it is
UTF-16 or UTF-32.  In each of these a surrogate that stands alone is taken as it is; a byte-order
mark is no part of the text.
-/
import FacetSearch.Text.Utf8

namespace FacetSearch.Json

/-- The encodings a body may have; `bigEndian` puts the high byte first. -/
inductive Encoding where
  | utf8
  | utf16 (bigEndian : Bool)
  | utf32 (bigEndian : Bool)
  deriving DecidableEq, Repr

/-- The encoding of a body and what is left of it without its byte-order mark. -/
def detect (bytes : List UInt8) : Encoding × List UInt8 :=
  match bytes with
  | 0x00 :: 0x00 :: 0xFE :: 0xFF :: rest => (.utf32 true, rest)
  | 0xFF :: 0xFE :: 0x00 :: 0x00 :: rest => (.utf32 false, rest)
  | 0xFE :: 0xFF :: rest => (.utf16 true, rest)
  | 0xFF :: 0xFE :: rest => (.utf16 false, rest)
  | 0xEF :: 0xBB :: 0xBF :: rest => (.utf8, rest)
  | a :: b :: c :: d :: _ =>
    if a = 0 then (if b = 0 then .utf32 true else .utf16 true, bytes)
    else if b = 0 then (if c = 0 ∧ d = 0 then .utf32 false else .utf16 false, bytes)
    else (.utf8, bytes)
  | [a, b] => (if a = 0 then .utf16 true else if b = 0 then .utf16 false else .utf8, bytes)
  | _ => (.utf8, bytes)

/-- The two-byte units of a body; a byte left over makes it fail. -/
def units16? (bigEndian : Bool) : List UInt8 → Option (List Nat)
  | [] => some []
  | [_] => none
  | a :: b :: rest =>
    let unit := if bigEndian then a.toNat * 0x100 + b.toNat else b.toNat * 0x100 + a.toNat
    (units16? bigEndian rest).map (unit :: ·)

/-- The four-byte units of a body; bytes left over make it fail. -/
def units32? (bigEndian : Bool) : List UInt8 → Option (List Nat)
  | [] => some []
  | a :: b :: c :: d :: rest =>
    let big (w x y z : UInt8) := ((w.toNat * 0x100 + x.toNat) * 0x100 + y.toNat) * 0x100 + z.toNat
    let unit := if bigEndian then big a b c d else big d c b a
    (units32? bigEndian rest).map (unit :: ·)
  | _ => none

/-- Joins a high surrogate with the low one after it; all other units stay. -/
def joinSurrogates : List Nat → Text
  | [] => []
  | [a] => [CodePoint.ofNat a]
  | a :: b :: rest =>
    if 0xD800 ≤ a ∧ a ≤ 0xDBFF ∧ 0xDC00 ≤ b ∧ b ≤ 0xDFFF then
      CodePoint.ofNat (0x10000 + (a - 0xD800) * 0x400 + (b - 0xDC00)) :: joinSurrogates rest
    else CodePoint.ofNat a :: joinSurrogates (b :: rest)

/-- The text of a body, if its bytes are well formed in their encoding. -/
def textOf? (bytes : List UInt8) : Option Text :=
  match detect bytes with
  | (.utf8, rest) => Utf8.decodePassing? rest
  | (.utf16 bigEndian, rest) => (units16? bigEndian rest).map joinSurrogates
  | (.utf32 bigEndian, rest) =>
    (units32? bigEndian rest).bind fun units =>
      units.mapM fun n => if n < 0x110000 then some (CodePoint.ofNat n) else none

end FacetSearch.Json
