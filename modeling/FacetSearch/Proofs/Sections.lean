/-
# FacetSearch.Proofs.Sections — the sections of a compiled document.

A compiled document is read by the path to a section: the names of the dictionaries that lead to it.
Each section is the written form of one part of the query, so a statement about a section is a
statement about that part.
-/
import FacetSearch.Search.Service

namespace FacetSearch

/-- The value at the end of a path of names, if the path leads anywhere. -/
def Value.at? : Value → List Text → Option Value
  | v, [] => some v
  | .dict entries, name :: path => (Entries.get? entries name).bind (at? · path)
  | _, _ :: _ => none

/-! ## What stands where in a written document -/

namespace Document

variable (d : Document)

theorem toBody_minScore : d.toBody.at? ["min_score"] = some (.float d.minScore) := rfl

/-- A filter that is not there leaves no section behind. -/
theorem toBody_filter : d.toBody.at? ["filter"] = d.filter.map Record.toValue := by
  unfold toBody
  cases d.filter <;> rfl

theorem toBody_sort : d.toBody.at? ["sort"] = some (.list (d.sort.map SortEntry.toValue)) := by
  unfold toBody
  cases d.filter <;> rfl

theorem toBody_offset : d.toBody.at? ["from"] = some (.int d.offset) := by
  unfold toBody
  cases d.filter <;> rfl

theorem toBody_aggregations : d.toBody.at? ["aggregations"] = some d.aggregations.toValue := by
  unfold toBody
  cases d.filter <;> rfl

end Document

/-! ## The sections of the document for given parameters -/

namespace Service

/-- The clause for the search text. -/
def textSection (p : Params) : Option Value := (compile p).at? ["query", "bool", "must"]

/-- The filter that narrows hits and facets. -/
def facetSection (p : Params) : Option Value := (compile p).at? ["query", "bool", "filter"]

/-- The filter outside of the query. -/
def priceSection (p : Params) : Option Value := (compile p).at? ["filter"]

/-- The sort keys. -/
def sortSection (p : Params) : Option Value := (compile p).at? ["sort"]

/-- The offset. -/
def offsetSection (p : Params) : Option Value := (compile p).at? ["from"]

/-- The score threshold. -/
def scoreSection (p : Params) : Option Value := (compile p).at? ["min_score"]

/-- The aggregations. -/
def aggregationSection (p : Params) : Option Value := (compile p).at? ["aggregations"]

variable (p : Params)

theorem textSection_eq : textSection p = some (TextClause.ofQuery p.query).toValue := rfl

theorem facetSection_eq : facetSection p = some (Facet.ofParams p).toValue := rfl

theorem priceSection_eq :
    priceSection p = (PriceRange.ofPrices p.priceMin p.priceMax).map PriceRange.toValue := by
  rw [priceSection, compile, Document.toBody_filter]
  exact Option.map_map ..

theorem sortSection_eq :
    sortSection p = some (.list ((SortKey.ofSorting p.sorting).map SortKey.toValue)) := by
  rw [sortSection, compile, Document.toBody_sort]
  exact congrArg (fun entries => some (Value.list entries)) (List.map_map ..)

theorem offsetSection_eq : offsetSection p = some (.int p.offset) := Document.toBody_offset _

theorem scoreSection_eq : scoreSection p = some (.float minScore) := Document.toBody_minScore _

theorem aggregationSection_eq : aggregationSection p = some aggregations.toValue :=
  Document.toBody_aggregations _

end Service

end FacetSearch
