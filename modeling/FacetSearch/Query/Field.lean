/-
# FacetSearch.Query.Field — the indexed fields and the tokens stored in them.

Index and queries meet in the names of the fields and in the form of the property tokens: a
property is stored as its name, two bars and its value.  The bars are not escaped, so a name that
contains them, or ends in one, can make the token of another property.
-/
import FacetSearch.Value.Literal

namespace FacetSearch

/-- The fields of an indexed product. -/
inductive Field where
  | name
  | untouchedName
  | description
  | sku
  | price
  | availableOn
  | discontinueOn
  | taxonIds
  | properties
  deriving DecidableEq, Repr

namespace Field

/-- The name of a field in the index. -/
def label : Field → Text
  | .name => "name"
  | .untouchedName => "untouched_name"
  | .description => "description"
  | .sku => "sku"
  | .price => "price"
  | .availableOn => "available_on"
  | .discontinueOn => "discontinue_on"
  | .taxonIds => "taxon_ids"
  | .properties => "properties"

end Field

/-- The pseudo-field that holds the score of a hit. -/
def scoreField : Text := "_score"

/-- What stands between the name and the value of a property in its token. -/
def tokenSeparator : Text := "||"

/-- The present moment, rounded down to the hour by the engine. -/
def thisHour : Text := "now/1h"

/-- The token of a property. -/
def propertyToken (name value : Text) : Text := name ++ tokenSeparator ++ value

/-- The token of a property given as any two values. -/
def propertyTokenOf (name value : Value) : Text := propertyToken name.display value.display

end FacetSearch
