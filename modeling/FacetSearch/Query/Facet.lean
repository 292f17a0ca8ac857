/-
# FacetSearch.Query.Facet — the clauses that narrow the facets.

Properties, taxons and the dates of sale narrow both the hits and the facet counts.  Different
properties must all be met, one value of a property is enough; a property without values and an
empty list of taxons ask for nothing.  Only products on sale in the present hour are selected.
-/
import FacetSearch.Query.Clause
import FacetSearch.Value.Access

namespace FacetSearch.Facet

/-- One clause for each property that has values. -/
def propertyClauses (properties : List (Text × List Text)) : List Clause :=
  (properties.filter fun (_, values) => values ≠ []).map fun (name, values) =>
    .terms .properties (values.map fun value => .text (propertyToken name value))

/-- The clause for the taxons, if any are asked for. -/
def taxonClause : List TaxonId → Option Clause
  | [] => none
  | ids => some (.terms .taxonIds (ids.map Term.ofTaxonId))

/-- The product is on sale already. -/
def availability : Clause := .notAfterNow .availableOn

/-- The sale of the product has no end, or its end is still to come. -/
def discontinuation : Clause :=
  .any [.not (.present .discontinueOn), .notBeforeNow .discontinueOn]

/-- Everything that narrows the facets, as one clause. -/
def ofParams (p : Params) : Clause :=
  .all (propertyClauses p.properties ++ (taxonClause p.taxonIds).toList ++
    [availability, discontinuation])

/-! ## Properties and taxons given as any values -/

/-- The clauses for properties given as a dictionary whose values can be walked through. -/
def propertyClausesOf (v : Value) : Except Failure (List Clause) := do
  let entries ← v.items
  let named ← entries.mapM fun (k, x) => do
    let xs ← x.walked
    return (k.display, xs.map Value.display)
  return propertyClauses named

/-- The form of the taxon clause for ids given as anything that can be walked through; null if
there are none. -/
def taxonValueOf (v : Value) : Except Failure Value := do
  match ← v.walked with
  | [] => return .null
  | ids => return Clause.termsValue .taxonIds ids

end FacetSearch.Facet
