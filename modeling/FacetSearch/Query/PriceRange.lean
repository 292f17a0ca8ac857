/-
# FacetSearch.Query.PriceRange — the price range of a query.

A range is in effect only if both ends are given and the lower end is less than the upper one,
compared exactly; otherwise it is left out without complaint.  Its ends are written as doubles,
because prices are indexed as doubles.
-/
import FacetSearch.Failure
import FacetSearch.Query.Field
import FacetSearch.Validation.Collection
import FacetSearch.Value.Order

namespace FacetSearch

/-- A price range in effect: from `low` to `high`, both ends included. -/
structure PriceRange where
  low : Binary64
  high : Binary64
  deriving DecidableEq, Repr

namespace PriceRange

/-- The range between two prices, if it is in effect. -/
def ofPrices : Option Decimal → Option Decimal → Option PriceRange
  | some low, some high => if low.lt high then some ⟨low.toBinary64, high.toBinary64⟩ else none
  | _, _ => none

/-- The filter that keeps prices within a range. -/
def filter (r : PriceRange) : Record :=
  [("range", .dict [(.text Field.price.label,
    .record [("gte", .float r.low), ("lte", .float r.high)])])]

/-- The form in which the engine takes a range. -/
def toValue (r : PriceRange) : Value := r.filter.toValue

/-! ## Ends of any kind -/

/-- The double that a numeral is as an end of a range. -/
def endOfNumeral (v : Value) (t : Text) : Except Failure Binary64 :=
  match Binary64.ofNumeral? t with
  | some x => .ok x
  | none => .error (.ofFault .value ("could not convert string to float: " ++ v.literal))

/-- The double that a value becomes as an end of a range: a number, or a text or bytes that write
one.  Only ASCII counts among bytes. -/
def endOf (v : Value) : Except Failure Binary64 :=
  match v, v.text? with
  | _, some t => endOfNumeral v t
  | .float x, _ => .ok x
  | .decimal (.finite d), _ => .ok d.toBinary64
  | .decimal (.infinity negative), _ => .ok (.infinity negative)
  | .decimal (.nan ..), _ => .ok .nan
  | .int n, _ =>
    let x := Binary64.ofInt n
    if x.isFinite then .ok x
    else .error (.ofFault .overflow "int too large to convert to float")
  | .bool b, _ => .ok (Binary64.ofInt (if b then 1 else 0))
  | .bytes bs, _ =>
    endOfNumeral v (if bs.all (·.toNat < 0x80) then bs.map fun b => .ofNat b.toNat else [])
  | v, _ => .error (.ofFault .type
      ("float() argument must be a string or a real number, not '" ++ v.kind ++ "'"))

/-- The range between two ends of any kind, null for an end that is not given. -/
def between (low high : Value) : Except Failure (Option PriceRange) :=
  match low, high with
  | .null, _ => .ok none
  | _, .null => .ok none
  | low, high => do
    if ← Value.less low high then
      let l ← endOf low
      let h ← endOf high
      return some ⟨l, h⟩
    else return none

end PriceRange

end FacetSearch
