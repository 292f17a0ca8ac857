/-
# FacetSearch.Query.Sorting — the modes in which results may be ordered.

A mode is named by a word in the request.  No word is an error: an unknown one means the default
mode.
-/
import FacetSearch.Text.Basic

namespace FacetSearch

/-- The modes in which results may be ordered. -/
inductive Sorting where
  | nameAsc
  | nameDesc
  | priceAsc
  | priceDesc
  | score
  | default
  deriving DecidableEq, Repr

namespace Sorting

/-- The word that names a mode. -/
def label : Sorting → Text
  | .nameAsc => "name_asc"
  | .nameDesc => "name_desc"
  | .priceAsc => "price_asc"
  | .priceDesc => "price_desc"
  | .score => "score"
  | .default => "default"

/-- Every mode once. -/
def all : List Sorting := [.nameAsc, .nameDesc, .priceAsc, .priceDesc, .score, .default]

/-- The mode that a word names; the default mode for any other word. -/
def ofLabel (t : Text) : Sorting := (all.find? fun mode => mode.label = t).getD .default

end Sorting

end FacetSearch
