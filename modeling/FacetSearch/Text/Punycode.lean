/-
# FacetSearch.Text.Punycode — names of all scripts spelled in ASCII.

The ASCII code points of a name come first, as they are.  After a hyphen the others follow in
increasing order: each is told by its distance from the one before it, counted over all code points
and all places, and a distance is a number of base 36 whose digits end below a threshold.  The
thresholds adapt to the distances seen, so that runs of one script stay short.
-/
import FacetSearch.Text.Basic

namespace FacetSearch.Punycode

/-- The digit of a value: letters up to 25, then figures. -/
def digit (d : Nat) : CodePoint := CodePoint.ofNat (if d < 26 then 0x61 + d else 0x16 + d)

/-- The least value of the digit at a position that does not end the number. -/
def threshold (bias position : Nat) : Nat :=
  if position ≤ bias then 1 else if bias + 26 ≤ position then 26 else position - bias

theorem threshold_pos (bias position : Nat) : 0 < threshold bias position := by
  unfold threshold
  split
  · omega
  · split <;> omega

/-- Divides by 35 until at most 455 is left, and counts 36 for every division. -/
def scaled (delta : Nat) (counted : Nat) : Nat × Nat :=
  if 455 < delta then scaled (delta / 35) (counted + 36) else (delta, counted)
termination_by delta
decreasing_by omega

/-- The bias after a distance was written; `points` code points are placed by then. -/
def adapt (delta points : Nat) (isFirst : Bool) : Nat :=
  let damped := if isFirst then delta / 700 else delta / 2
  let (rest, counted) := scaled (damped + damped / points) 0
  counted + 36 * rest / (rest + 38)

/-- The digits of a distance, from a position on. -/
def digits (bias position n : Nat) : Text :=
  let t := threshold bias position
  if h : n < t then [digit n]
  else digit (t + (n - t) % (36 - t)) :: digits bias (position + 36) ((n - t) / (36 - t))
termination_by n
decreasing_by
  have := threshold_pos bias position
  exact Nat.lt_of_le_of_lt (Nat.div_le_self _ _) (by omega)

/-- What has been written: the digits, the distance so far, the bias, and how many code points have
their place. -/
structure Progress where
  written : Text
  delta : Nat
  bias : Nat
  placed : Nat

/-- Passes over a place of the name: one smaller than the code point under way adds to the distance,
and that code point itself is written. -/
def visit (basic : Nat) (point : Nat) (p : Progress) (c : CodePoint) : Progress :=
  if c.val < point then { p with delta := p.delta + 1 }
  else if c.val = point then
    ⟨p.written ++ digits p.bias 36 p.delta, 0, adapt p.delta (p.placed + 1) (p.placed == basic),
      p.placed + 1⟩
  else p

/-- Writes all places of the given code points, which increase; `next` is the least code point not
considered yet. -/
def visitAll (t : Text) (basic : Nat) : (next : Nat) → List Nat → Progress → Progress
  | _, [], p => p
  | next, point :: rest, p =>
    let started := { p with delta := p.delta + (point - next) * (p.placed + 1) }
    let visited := t.foldl (visit basic point) started
    visitAll t basic (point + 1) rest { visited with delta := visited.delta + 1 }

/-- Inserts a number into an increasing list without repeats. -/
def insertPoint (n : Nat) : List Nat → List Nat
  | [] => [n]
  | m :: rest => if n < m then n :: m :: rest else if n = m then m :: rest
    else m :: insertPoint n rest

/-- The ASCII spelling of a name. -/
def encode (t : Text) : Text :=
  let basic := t.filter fun c => c.val < 0x80
  let points := (t.filter fun c => 0x80 ≤ c.val).foldr (fun c ns => insertPoint c.val ns) []
  let written := (visitAll t basic.length 0x80 points ⟨[], 0, 72, basic.length⟩).written
  basic ++ (if basic.isEmpty then [] else [CodePoint.ofChar '-']) ++ written

end FacetSearch.Punycode
