/-
# FacetSearch.Text.Flips — classes of code points by the points at which membership changes.

A class that is a union of many ranges is kept as the increasing list of the code points at which
one enters or leaves it.  A code point belongs to the class exactly if an odd number of these lie at
or below it, so a list may be cut into several and the answers combined by exclusive or.
-/
import FacetSearch.Text.Basic

namespace FacetSearch.CodePoint

/-- Whether an odd number of flips lie at or below a code point. -/
def isWithin (c : CodePoint) (flips : List Nat) : Bool :=
  flips.foldl (fun within flip => if flip ≤ c.val then !within else within) false

end FacetSearch.CodePoint
