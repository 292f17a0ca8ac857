/-
# FacetSearch.Query.Request — the body of a search request.

The body is stricter than the parameters it becomes: the offset may not be negative, nothing but
the text, the prices and the sorting word may be null, and a property value must be a text, an
integer or a number.  An accepted body is handed on as a dictionary and read as parameters.
-/
import FacetSearch.Query.Params

namespace FacetSearch

/-- A property value of a request body. -/
inductive PropertyValue where
  | text (t : Text)
  | int (n : Int)
  | float (x : Binary64)
  deriving DecidableEq, Repr

namespace PropertyValue

def toValue : PropertyValue → Value
  | .text t => .text t
  | .int n => .int n
  | .float x => .float x

open Validation in
/-- Reads a property value.  Texts, integers and numbers stay what they are, a decimal becomes a
number, and otherwise what is a text comes before what is an integer before what is a number.
A value that is none of them has three problems. -/
def read (v : Value) : Checked PropertyValue :=
  match v with
  | .text t => .ok (.text t)
  | .int n => .ok (.int n)
  | .float x => .ok (.float x)
  | _ =>
    match text? v, int? v, float? v with
    | .ok t, _, _ => .ok (.text t)
    | .error _, .ok n, number =>
      match v, number with
      | .decimal _, .ok x => .ok (.float x)
      | _, _ => .ok (.int n)
    | .error _, .error _, .ok x => .ok (.float x)
    | .error p, .error q, .error r =>
      .error [⟨p, [.name "str"], v⟩, ⟨q, [.name "int"], v⟩, ⟨r, [.name "float"], v⟩]

end PropertyValue

/-- The body of a search request. -/
structure Request where
  offset : Nat
  query : Option Text
  priceMin : Option Decimal
  priceMax : Option Decimal
  properties : List (Text × List PropertyValue)
  taxonIds : List TaxonId
  browseMode : Bool
  sorting : Option Text
  deriving DecidableEq, Repr

namespace Request

open Validation

/-- The name that a refusal calls a request body by. -/
def modelName : Text := "ProductSearchRequest"

/-- Reads an offset: an integer that is not negative. -/
def readOffset (v : Value) : Checked Nat :=
  match scalar int? v with
  | .ok n => if n < 0 then Checked.fail (.below 0) v else .ok n.toNat
  | .error issues => .error issues

/-- Reads a request body from the entries of a dictionary. -/
def ofEntries (entries : Entries) : Checked Request :=
  .ok Request.mk
    |> (Checked.ap · (fieldEither entries "from" "from_" readOffset (.ok 0)))
    |> (Checked.ap · (field entries "query" (nullable (scalar text?)) (.ok none)))
    |> (Checked.ap · (field entries "price_min" (nullable (scalar decimal?)) (.ok none)))
    |> (Checked.ap · (field entries "price_max" (nullable (scalar decimal?)) (.ok none)))
    |> (Checked.ap · (field entries "properties" (dictOf (listOf PropertyValue.read)) (.ok [])))
    |> (Checked.ap · (field entries "taxon_ids" (listOf TaxonId.read) (.ok [])))
    |> (Checked.ap · (field entries "browse_mode" (scalar bool?) (.ok false)))
    |> (Checked.ap · (field entries "sorting" (nullable (scalar text?)) (.ok none)))

/-- Reads a request body from any value; `refusal` is the problem of one that is no dictionary. -/
def readOr (refusal : Problem) (v : Value) : Checked Request :=
  match v with
  | .dict entries => ofEntries entries
  | _ => Checked.fail refusal v

/-- Reads a request body from any value. -/
def read (v : Value) : Checked Request := readOr (.notModel modelName) v

/-- The fields of a request body under their own names, in order. -/
def fields (r : Request) : List (String × Value) :=
  [("from_", .int r.offset), ("query", Params.textValue r.query),
    ("price_min", Params.priceValue r.priceMin), ("price_max", Params.priceValue r.priceMax),
    ("properties", .dict (r.properties.map fun (name, values) =>
      (.text name, .list (values.map PropertyValue.toValue)))),
    ("taxon_ids", Params.taxonIdsValue r.taxonIds), ("browse_mode", .bool r.browseMode),
    ("sorting", Params.textValue r.sorting)]

/-- The request body as a dictionary. -/
def dump (r : Request) : Value := .record r.fields

/-- The parameters that a request body asks for. -/
def toParams (r : Request) : Checked Params := Params.read r.dump

/-- The request body in one line: names and literals of all fields. -/
def describe (r : Request) : Text :=
  Text.join " " (r.fields.map fun (name, v) => Text.ofString name ++ "=" ++ v.literal)

end Request

end FacetSearch
