/-
# FacetSearch.Text.Utf8 — UTF-8 over byte lists.

One machine reads bytes and marks each code point it completes and each ill-formed piece it meets
(the longest beginning of a code point that the next byte cannot continue).  The strict reader
refuses any broken mark, the lenient one puts U+FFFD in its place.  A machine may be told to let
the three-byte forms of surrogates pass.
-/
import FacetSearch.Text.Basic

namespace FacetSearch.Utf8

/-- A code point under way: how many bytes it still owes, which values the next byte may take,
and what has been read of it. -/
structure Pending where
  owed : Nat
  low : Nat
  high : Nat
  value : Nat
  deriving DecidableEq, Repr

/-- What the machine reports: a complete code point, or an ill-formed piece. -/
inductive Mark where
  | point (c : CodePoint)
  | broken
  deriving DecidableEq, Repr

/-- The first byte of a code point: marks at once what it completes, or starts a pending one.
The first continuation byte is bounded so that no overlong form, no surrogate and nothing above
U+10FFFF can be completed; `pass` lets surrogates through. -/
def start (pass : Bool) (b : UInt8) : List Mark × Option Pending :=
  let n := b.toNat
  if n < 0x80 then ([.point (CodePoint.ofNat n)], none)
  else if n < 0xC2 then ([.broken], none)
  else if n < 0xE0 then ([], some ⟨1, 0x80, 0xBF, n - 0xC0⟩)
  else if n = 0xE0 then ([], some ⟨2, 0xA0, 0xBF, 0⟩)
  else if n = 0xED then ([], some ⟨2, 0x80, if pass then 0xBF else 0x9F, 0xD⟩)
  else if n < 0xF0 then ([], some ⟨2, 0x80, 0xBF, n - 0xE0⟩)
  else if n = 0xF0 then ([], some ⟨3, 0x90, 0xBF, 0⟩)
  else if n < 0xF4 then ([], some ⟨3, 0x80, 0xBF, n - 0xF0⟩)
  else if n = 0xF4 then ([], some ⟨3, 0x80, 0x8F, 4⟩)
  else ([.broken], none)

/-- One byte: it continues the pending code point, or breaks it off and starts afresh. -/
def step (pass : Bool) : Option Pending → UInt8 → List Mark × Option Pending
  | none, b => start pass b
  | some p, b =>
    if p.low ≤ b.toNat ∧ b.toNat ≤ p.high then
      let value := p.value * 64 + (b.toNat - 0x80)
      if p.owed ≤ 1 then ([.point (CodePoint.ofNat value)], none)
      else ([], some ⟨p.owed - 1, 0x80, 0xBF, value⟩)
    else
      let (marks, next) := start pass b
      (.broken :: marks, next)

/-- The marks of a byte list; a code point left unfinished at the end is broken. -/
def scan (pass : Bool) : Option Pending → List UInt8 → List Mark
  | none, [] => []
  | some _, [] => [.broken]
  | p, b :: rest =>
    let (marks, next) := step pass p b
    marks ++ scan pass next rest

/-- The code point of a mark, if it is not broken. -/
def Mark.point? : Mark → Option CodePoint
  | .point c => some c
  | .broken => none

/-- U+FFFD, which stands for what could not be read. -/
def replacement : CodePoint := CodePoint.ofNat 0xFFFD

/-- The code point of a mark, U+FFFD for a broken one. -/
def Mark.orReplacement : Mark → CodePoint
  | .point c => c
  | .broken => replacement

/-- Strict reading: refuses every ill-formed byte list. -/
def decode? (bytes : List UInt8) : Option Text := (scan false none bytes).mapM Mark.point?

/-- Strict reading that takes the three-byte forms of surrogates as well. -/
def decodePassing? (bytes : List UInt8) : Option Text := (scan true none bytes).mapM Mark.point?

/-- Lenient reading: each ill-formed piece becomes one U+FFFD. -/
def decodeLossy (bytes : List UInt8) : Text := (scan false none bytes).map Mark.orReplacement

/-- The bytes of one code point, without regard to surrogates. -/
def encodePoint (c : CodePoint) : List UInt8 :=
  let n := c.val
  if n < 0x80 then [n.toUInt8]
  else if n < 0x800 then [(0xC0 + n / 0x40).toUInt8, (0x80 + n % 0x40).toUInt8]
  else if n < 0x10000 then
    [(0xE0 + n / 0x1000).toUInt8, (0x80 + n / 0x40 % 0x40).toUInt8, (0x80 + n % 0x40).toUInt8]
  else
    [(0xF0 + n / 0x40000).toUInt8, (0x80 + n / 0x1000 % 0x40).toUInt8,
      (0x80 + n / 0x40 % 0x40).toUInt8, (0x80 + n % 0x40).toUInt8]

/-- Writing: a text that holds a surrogate has no UTF-8 form. -/
def encode? (t : Text) : Option (List UInt8) :=
  if t.isScalar then some (t.flatMap encodePoint) else none

/-- The text with each surrogate replaced by one U+FFFD for each of the three bytes that a
generalised encoding would give it. -/
def replaceSurrogates (t : Text) : Text :=
  t.flatMap fun c => if c.isSurrogate then List.replicate 3 replacement else [c]

end FacetSearch.Utf8
