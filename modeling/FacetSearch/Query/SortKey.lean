/-
# FacetSearch.Query.SortKey — the sort keys of each mode.

Every mode ends in keys that break ties, the score among them.  Names are sorted by the field that
is not analysed.
-/
import FacetSearch.Query.Document
import FacetSearch.Query.Field

namespace FacetSearch

/-- The direction in which a field is sorted. -/
inductive Direction where
  | ascending
  | descending
  deriving DecidableEq, Repr

/-- A sort key: the score, or a field in a direction. -/
inductive SortKey where
  | score
  | field (field : Field) (direction : Direction)
  deriving DecidableEq, Repr

namespace Direction

def label : Direction → Text
  | .ascending => "asc"
  | .descending => "desc"

end Direction

namespace SortKey

/-- The sort keys of a mode, the first one deciding first. -/
def ofSorting : Sorting → List SortKey
  | .nameAsc => [.field .untouchedName .ascending, .field .price .ascending, .score]
  | .nameDesc => [.field .untouchedName .descending, .field .price .ascending, .score]
  | .priceAsc => [.field .price .ascending, .field .untouchedName .ascending, .score]
  | .priceDesc => [.field .price .descending, .field .untouchedName .ascending, .score]
  | _ => [.score, .field .untouchedName .ascending, .field .price .ascending]

/-- The entry of the sort list for a sort key. -/
def toEntry : SortKey → SortEntry
  | .score => .name scoreField
  | .field f direction => .record [(f.label, .record [("order", .text direction.label)])]

/-- The form in which the engine takes a sort key. -/
def toValue (key : SortKey) : Value := key.toEntry.toValue

end SortKey

end FacetSearch
