/-
# FacetSearch.Operation — the steps of a query and of an answer, called by name.

Each step of compiling a query, and each envelope of an answer, can be called on its own.  An
operation says which arguments it takes; values that do not fit are a failure that names the
operation.  Arguments may be of any kind, so every step here is the one for arbitrary values.
-/
import FacetSearch.Http.Envelope
import FacetSearch.Query.Compile
import FacetSearch.Signature

namespace FacetSearch

/-- The operations that can be called by name. -/
inductive Operation where
  | escape
  | textClause
  | propertyToken
  | propertyClauses
  | taxonClause
  | priceRange
  | availability
  | discontinuation
  | aggregations
  | sortKeys
  | sorting
  | failureEnvelope
  | successEnvelope
  deriving DecidableEq, Repr

namespace Operation

/-- The name of an operation. -/
def name : Operation → Text
  | .escape => "escape_query_string"
  | .textClause => "build_text_query"
  | .propertyToken => "property_token"
  | .propertyClauses => "build_property_filters"
  | .taxonClause => "build_taxon_filter"
  | .priceRange => "build_price_filter"
  | .availability => "availability_filter"
  | .discontinuation => "discontinuation_filter"
  | .aggregations => "build_aggregations"
  | .sortKeys => "resolve_sort"
  | .sorting => "sorting"
  | .failureEnvelope => "error_envelope"
  | .successEnvelope => "ok"

/-- All operations. -/
def all : List Operation :=
  [.escape, .textClause, .propertyToken, .propertyClauses, .taxonClause, .priceRange,
    .availability, .discontinuation, .aggregations, .sortKeys, .sorting, .failureEnvelope,
    .successEnvelope]

/-- The operation of a name. -/
def ofName? (t : Text) : Option Operation := all.find? fun op => op.name = t

/-- The parameters of an operation. -/
def parameters : Operation → List Parameter
  | .escape => [.needed "text"]
  | .textClause => [.needed "query"]
  | .propertyToken => [.needed "key", .needed "value"]
  | .propertyClauses => [.needed "properties"]
  | .taxonClause => [.needed "taxon_ids"]
  | .priceRange => [.needed "price_min", .needed "price_max"]
  | .sortKeys => [.needed "sorting"]
  | .sorting => [.needed "value", ⟨"names", some .null⟩]
  | .failureEnvelope => [.needed "message", ⟨"code", some Envelope.defaultCode⟩,
      ⟨"details", some .null⟩, ⟨"trace_id", some .null⟩]
  | .successEnvelope => [⟨"data", some .null⟩, ⟨"message", some Envelope.defaultMessage⟩]
  | _ => []

/-- What an operation takes.  The sorting modes are called as a type is, which has options for new
types. -/
def signature (op : Operation) : Signature :=
  match op with
  | .sorting => ⟨"EnumType.__call__", op.parameters, ["cls"],
      ["module", "qualname", "type", "start", "boundary"]⟩
  | op => ⟨op.name, op.parameters, [], []⟩

/-- The mode that a value names; with `names` a new type of modes is asked for, and there is none
beside this one. -/
def sortingOf (v names : Value) : Except Failure Value :=
  match names with
  | .null => .ok (.sorting (Params.readSorting v))
  | _ => .error (.ofFault .type ("<enum " ++ v.literal ++ "> cannot extend <enum 'Sorting'>"))

/-- Carries an operation out on the values of its parameters, for the request of the given id. -/
def perform (requestId : Value) (op : Operation) (values : List Value) : Except Failure Value :=
  let value (i : Nat) : Value := values.getD i .null
  match op with
  | .escape => (TextClause.escapedOf (value 0)).map .text
  | .textClause => (TextClause.ofValue (value 0)).map TextClause.toValue
  | .propertyToken => .ok (.text (propertyTokenOf (value 0) (value 1)))
  | .propertyClauses => (Facet.propertyClausesOf (value 0)).map fun clauses =>
      .list (clauses.map Clause.toValue)
  | .taxonClause => Facet.taxonValueOf (value 0)
  | .priceRange => (PriceRange.between (value 0) (value 1)).map fun range? =>
      (range?.map PriceRange.toValue).getD .null
  | .availability => .ok Facet.availability.toValue
  | .discontinuation => .ok Facet.discontinuation.toValue
  | .aggregations => .ok FacetSearch.aggregations.toValue
  | .sortKeys =>
    .ok (.list ((SortKey.ofSorting (Params.readSorting (value 0))).map SortKey.toValue))
  | .sorting => sortingOf (value 0) (value 1)
  | .failureEnvelope => .ok (Envelope.failure (value 0) (value 1) (value 2) (value 3))
  | .successEnvelope => .ok (Envelope.success (value 0) (value 1) requestId)

/-- Calls an operation. -/
def call (requestId : Value) (op : Operation) (g : Given) : Except Failure Value := do
  op.perform requestId (← op.signature.bind g)

end Operation

end FacetSearch
