/-
# FacetSearch.Query.Compile — from parameters to a document.

Compiling takes each part of the parameters to its part of the query: the text, the facets, the
price range, the sort keys, the offset.  The parts do not see each other.  The facets stand inside
the scored query, so the aggregations count over the same products; the price range stands outside,
so moving it does not change the counts.
-/
import FacetSearch.Query.Document
import FacetSearch.Query.Facet
import FacetSearch.Query.PriceRange
import FacetSearch.Query.SortKey
import FacetSearch.Query.TextClause

namespace FacetSearch

/-- A query in its parts. -/
structure CompiledQuery where
  text : TextClause
  facets : Clause
  price : Option PriceRange
  sort : List SortKey
  offset : Int

/-- More buckets than any index has values. -/
def maxBuckets : Int := 1000000

/-- The three aggregations, the same for every query: price statistics and the counts of all
properties and taxons. -/
def aggregations : Record :=
  [("price", .record [("stats", .record [("field", .text Field.price.label)])]),
    ("properties", .record [("terms", .record [("field", .text Field.properties.label),
      ("order", .record [("_count", "asc")]), ("size", .int maxBuckets)])]),
    ("taxon_ids", .record [("terms", .record [("field", .text Field.taxonIds.label),
      ("size", .int maxBuckets)])])]

/-- Hits that score less than one tenth are dropped. -/
def minScore : Binary64 := .ofDecimal false 1 (-1)

namespace CompiledQuery

/-- The query for given parameters. -/
def ofParams (p : Params) : CompiledQuery where
  text := .ofQuery p.query
  facets := Facet.ofParams p
  price := PriceRange.ofPrices p.priceMin p.priceMax
  sort := SortKey.ofSorting p.sorting
  offset := p.offset

/-- The document of a query. -/
def toDocument (q : CompiledQuery) : Document where
  minScore := minScore
  query := [("bool", .record [("must", q.text.toValue), ("filter", q.facets.toValue)])]
  filter := q.price.map PriceRange.filter
  sort := q.sort.map SortKey.toEntry
  offset := q.offset
  aggregations := aggregations

end CompiledQuery

/-- The document for given parameters. -/
def compile (p : Params) : Document := (CompiledQuery.ofParams p).toDocument

end FacetSearch
