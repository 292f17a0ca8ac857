/-
# FacetSearch.Query.Params — the parameters of a search.

Parameters are complete: whoever holds them has an offset, a list of properties, a sorting mode
and so on, whatever was left out or null in the input.  Property values are texts without repeats,
so a value that has no text spoils the properties; taxon ids keep their kind (the number `5` and the
word `5` are two ids) and have no repeats either.  Parameters never change after they are read.
-/
import FacetSearch.Validation.Collection

namespace FacetSearch

/-- The id of a taxon: a number or a word. -/
inductive TaxonId where
  | number (n : Int)
  | word (t : Text)
  deriving DecidableEq, Repr

namespace TaxonId

def toValue : TaxonId → Value
  | .number n => .int n
  | .word t => .text t

/-- Reads a taxon id: numbers and words as they are, otherwise what is an integer before what is a
text.  A value that is neither has both problems. -/
def read (v : Value) : Checked TaxonId :=
  match v with
  | .int n => .ok (.number n)
  | .text t => .ok (.word t)
  | _ =>
    match Validation.int? v, Validation.text? v with
    | .ok n, _ => .ok (.number n)
    | .error _, .ok t => .ok (.word t)
    | .error p, .error q => .error [⟨p, [.name "int"], v⟩, ⟨q, [.name "str"], v⟩]

end TaxonId

/-- The parameters of a search. -/
structure Params where
  offset : Int
  query : Option Text
  priceMin : Option Decimal
  priceMax : Option Decimal
  properties : List (Text × List Text)
  taxonIds : List TaxonId
  browseMode : Bool
  sorting : Sorting
  deriving DecidableEq, Repr

namespace Params

open Validation

/-- The name that a refusal calls the parameters by. -/
def modelName : Text := "QueryParams"

/-- A value in place of null. -/
def nonNull (v substitute : Value) : Value :=
  match v with
  | .null => substitute
  | v => v

/-- The values of one property, each as its text. -/
def displayMembers (v : Value) : Value :=
  match v.members? with
  | some xs => .list (xs.map fun x => .text x.display)
  | none => v

/-- Whether the values of one property have texts; what is no list of values is not asked. -/
def membersHaveText (v : Value) : Bool := (v.members?.map Value.haveTexts).getD true

/-- Property values may be anything; they are taken by their texts.  One without a text is a problem
with the properties as a whole. -/
def displayProperties (v : Value) : Checked Value :=
  match v with
  | .null => .ok (.dict [])
  | .dict entries =>
    if entries.all fun (_, x) => membersHaveText x then
      .ok (.dict (entries.map fun (k, x) => (k, displayMembers x)))
    else Checked.fail (.raised Value.tooLong) v
  | v => .ok v

/-- Reads the properties: names to lists of texts, repeats within a list dropped. -/
def readProperties (v : Value) : Checked (List (Text × List Text)) :=
  match displayProperties v with
  | .error issues => .error issues
  | .ok displayed =>
    (dictOf (listOf (scalar text?)) displayed).map fun entries =>
      entries.map fun (name, values) => (name, distinct values)

/-- Reads the taxon ids, repeats dropped. -/
def readTaxonIds (v : Value) : Checked (List TaxonId) :=
  (listOf TaxonId.read (nonNull v (.list []))).map distinct

/-- Reads a sorting mode; whatever is no mode and names none is the default one. -/
def readSorting : Value → Sorting
  | .sorting mode => mode
  | .text t => Sorting.ofLabel t
  | _ => .default

/-- Reads parameters from the entries of a dictionary. -/
def ofEntries (entries : Entries) : Checked Params :=
  let offset (v : Value) := scalar int? (nonNull v (.int 0))
  let browseMode (v : Value) := scalar bool? (nonNull v (.bool false))
  .ok Params.mk
    |> (Checked.ap · (fieldEither entries "from" "from_" offset (.ok 0)))
    |> (Checked.ap · (field entries "query" (nullable (scalar text?)) (.ok none)))
    |> (Checked.ap · (field entries "price_min" (nullable (scalar decimal?)) (.ok none)))
    |> (Checked.ap · (field entries "price_max" (nullable (scalar decimal?)) (.ok none)))
    |> (Checked.ap · (field entries "properties" readProperties (.ok [])))
    |> (Checked.ap · (field entries "taxon_ids" readTaxonIds (.ok [])))
    |> (Checked.ap · (field entries "browse_mode" browseMode (.ok false)))
    |> (Checked.ap · (field entries "sorting" (fun v => .ok (readSorting v)) (.ok .default)))

/-- Reads parameters from any value. -/
def read (v : Value) : Checked Params :=
  match v with
  | .dict entries => ofEntries entries
  | _ => Checked.fail (.notModel modelName) v

/-- Parameters cannot be changed: every assignment is refused under the name assigned to, surrogates
in it replaced. -/
def assign (_ : Params) (name : Text) (v : Value) : Checked Params :=
  Checked.under (.name (Utf8.replaceSurrogates name)) (Checked.fail .frozen v)

/-- An optional price as a value. -/
def priceValue : Option Decimal → Value
  | some d => .decimal (.finite d)
  | none => .null

/-- An optional text as a value. -/
def textValue : Option Text → Value
  | some t => .text t
  | none => .null

/-- Properties as a dictionary of lists of texts. -/
def propertiesValue (properties : List (Text × List Text)) : Value :=
  .dict (properties.map fun (name, values) => (.text name, .list (values.map Value.text)))

/-- Taxon ids as a list. -/
def taxonIdsValue (ids : List TaxonId) : Value := .list (ids.map TaxonId.toValue)

/-- The parameters as a dictionary, the offset under the given name. -/
def dump (offsetName : String) (p : Params) : Value :=
  .record [(offsetName, .int p.offset), ("query", textValue p.query),
    ("price_min", priceValue p.priceMin), ("price_max", priceValue p.priceMax),
    ("properties", propertiesValue p.properties), ("taxon_ids", taxonIdsValue p.taxonIds),
    ("browse_mode", .bool p.browseMode), ("sorting", .sorting p.sorting)]

end Params

end FacetSearch
