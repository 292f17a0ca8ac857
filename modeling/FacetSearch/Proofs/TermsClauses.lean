/-
# FacetSearch.Proofs.TermsClauses — the terms clauses of a document.

A terms clause asks that a field hold one of the terms it lists, so one that lists nothing selects
nothing and one that lists a term twice says it twice.  The clauses are looked for in the whole
document as it is written, wherever in it they stand; they are those of the properties and of the
taxons.
-/
import FacetSearch.Proofs.Sections
import Mathlib.Data.List.Nodup

namespace FacetSearch

/-! ## Looking for terms clauses -/

/-- The field and the listed values of a terms clause, if a value is one. -/
def Value.listedTerms? : Value → Option (Text × List Value)
  | .dict [(.text clause, .dict [(.text field, .list listed)])] =>
    if clause = "terms" then some (field, listed) else none
  | _ => none

namespace Value

mutual

/-- All terms clauses inside a value, in the order in which they are written. -/
def termsClauses : Value → List (Text × List Value)
  | .dict entries => (listedTerms? (.dict entries)).toList ++ termsClausesOfEntries entries
  | .list xs => termsClausesOfMembers xs
  | _ => []

/-- All terms clauses under the keys of a dictionary. -/
def termsClausesOfEntries : List (Value × Value) → List (Text × List Value)
  | [] => []
  | (_, v) :: rest => termsClauses v ++ termsClausesOfEntries rest

/-- All terms clauses among the members of a list. -/
def termsClausesOfMembers : List Value → List (Text × List Value)
  | [] => []
  | x :: xs => termsClauses x ++ termsClausesOfMembers xs

end

theorem termsClausesOfMembers_eq (xs : List Value) :
    termsClausesOfMembers xs = xs.flatMap termsClauses := by
  induction xs with
  | nil => rfl
  | cons x xs ih => rw [termsClausesOfMembers, ih, List.flatMap_cons]

end Value

/-! ## The terms clauses of a clause -/

namespace Clause

/-- What stands under a single name that is not the one of terms clauses. -/
theorem termsClauses_single {name : Text} (h : name ≠ "terms") (v : Value) :
    (single name v).termsClauses = v.termsClauses := by
  have hnone : Value.listedTerms? (.dict [(.text name, v)]) = none := by
    unfold Value.listedTerms?
    split
    · simp_all
    · rfl
  simp [single, Value.termsClauses, Value.termsClausesOfEntries, hnone]

theorem termsClauses_terms (field : Field) (listed : List Term) :
    (toValue (.terms field listed)).termsClauses = [(field.label, listed.map Term.toValue)] := by
  have hlisted : (listed.map Term.toValue).flatMap Value.termsClauses = [] := by
    rw [List.flatMap_eq_nil_iff, List.forall_mem_map]
    rintro (t | n) _ <;> rfl
  simp [toValue, termsValue, single, Value.termsClauses, Value.termsClausesOfEntries,
    Value.listedTerms?, Value.termsClausesOfMembers_eq, hlisted]

mutual

/-- The terms clauses that a clause is made of. -/
def termsLeaves : Clause → List (Text × List Value)
  | .terms field listed => [(field.label, listed.map Term.toValue)]
  | .notAfterNow _ => []
  | .notBeforeNow _ => []
  | .present _ => []
  | .all clauses => termsLeavesOf clauses
  | .any clauses => termsLeavesOf clauses
  | .not clause => termsLeaves clause

/-- The terms clauses that several clauses are made of. -/
def termsLeavesOf : List Clause → List (Text × List Value)
  | [] => []
  | c :: cs => termsLeaves c ++ termsLeavesOf cs

end

theorem termsLeavesOf_eq (cs : List Clause) : termsLeavesOf cs = cs.flatMap termsLeaves := by
  induction cs with
  | nil => rfl
  | cons c cs ih => rw [termsLeavesOf, ih, List.flatMap_cons]

mutual

/-- Writing a clause makes no terms clauses but those that it is made of. -/
theorem termsClauses_toValue : ∀ c : Clause, (toValue c).termsClauses = termsLeaves c
  | .terms field listed => termsClauses_terms field listed
  | .notAfterNow field => by
      rw [toValue, termsClauses_single (by decide)]
      cases field <;> rfl
  | .notBeforeNow field => by
      rw [toValue, termsClauses_single (by decide)]
      cases field <;> rfl
  | .present field => by
      rw [toValue, termsClauses_single (by decide), termsClauses_single (by decide)]
      rfl
  | .all clauses => by
      rw [toValue, termsClauses_single (by decide), termsClauses_single (by decide)]
      exact termsClausesOfMembers_toValues clauses
  | .any clauses => by
      rw [toValue, termsClauses_single (by decide), termsClauses_single (by decide)]
      exact termsClausesOfMembers_toValues clauses
  | .not clause => by
      rw [toValue, termsClauses_single (by decide), termsClauses_single (by decide)]
      exact termsClauses_toValue clause

theorem termsClausesOfMembers_toValues : ∀ cs : List Clause,
    Value.termsClausesOfMembers (toValues cs) = termsLeavesOf cs
  | [] => rfl
  | c :: cs => by
      rw [toValues, Value.termsClausesOfMembers, termsClauses_toValue c,
        termsClausesOfMembers_toValues cs, termsLeavesOf]

end

end Clause

/-! ## The terms clauses of the document for given parameters -/

namespace Service

/-- The field of the tokens and the tokens of one property. -/
def propertyTerms (name : Text) (values : List Text) : Text × List Value :=
  (Field.properties.label, values.map fun value => .text (propertyToken name value))

/-- The field of the taxon ids and the ids, if any are asked for. -/
def taxonTerms : List TaxonId → List (Text × List Value)
  | [] => []
  | ids => [(Field.taxonIds.label, ids.map TaxonId.toValue)]

theorem termsLeaves_facets (p : Params) :
    (Facet.ofParams p).termsLeaves =
      ((p.properties.filter fun (_, values) => values ≠ []).map
        fun (name, values) => propertyTerms name values) ++ taxonTerms p.taxonIds := by
  have hproperties : (Facet.propertyClauses p.properties).flatMap Clause.termsLeaves =
      (p.properties.filter fun (_, values) => values ≠ []).map
        fun (name, values) => propertyTerms name values := by
    rw [Facet.propertyClauses, List.flatMap_map, ← List.flatMap_singleton' (List.map _ _),
      List.flatMap_map]
    simp [Clause.termsLeaves, propertyTerms, Term.toValue, Function.comp_def]
  have htaxons : (Facet.taxonClause p.taxonIds).toList.flatMap Clause.termsLeaves =
      taxonTerms p.taxonIds := by
    cases p.taxonIds with
    | nil => rfl
    | cons id ids =>
        have hterm : ∀ id : TaxonId, (Term.ofTaxonId id).toValue = id.toValue := by
          rintro (n | t) <;> rfl
        simp [Facet.taxonClause, Clause.termsLeaves, taxonTerms, hterm, Function.comp_def]
  have hdates : [Facet.availability, Facet.discontinuation].flatMap Clause.termsLeaves = [] := rfl
  rw [Facet.ofParams, Clause.termsLeaves, Clause.termsLeavesOf_eq, List.flatMap_append,
    List.flatMap_append, hproperties, htaxons, hdates, List.append_nil]

theorem termsClauses_text (clause : TextClause) : clause.toValue.termsClauses = [] := by
  cases clause with
  | matchAll => rfl
  | queryString escaped => rfl

theorem termsClauses_price (range : PriceRange) : range.filter.toValue.termsClauses = [] := rfl

theorem termsClauses_sort (mode : Sorting) :
    (SortKey.ofSorting mode).flatMap (fun key => key.toValue.termsClauses) = [] := by
  cases mode <;> rfl

/-- The scored query has the terms clauses of the facets. -/
theorem termsClauses_query (p : Params) :
    (FacetSearch.compile p).query.toValue.termsClauses = (Facet.ofParams p).termsLeaves := by
  show (Value.dict [(.text "bool", .dict [(.text "must", (TextClause.ofQuery p.query).toValue),
    (.text "filter", (Facet.ofParams p).toValue)])]).termsClauses = _
  simp [Value.termsClauses, Value.termsClausesOfEntries, Value.listedTerms?, termsClauses_text,
    Clause.termsClauses_toValue]

/-- **The terms clauses of a document**: one for each property with values, in order, and then one
for the taxons, if any are asked for. -/
theorem termsClauses_compile (p : Params) :
    (compile p).termsClauses =
      ((p.properties.filter fun (_, values) => values ≠ []).map
        fun (name, values) => propertyTerms name values) ++ taxonTerms p.taxonIds := by
  rw [← termsLeaves_facets, ← termsClauses_query]
  have hsort : Value.termsClausesOfMembers
      ((FacetSearch.compile p).sort.map SortEntry.toValue) = [] := by
    rw [Value.termsClausesOfMembers_eq, List.flatMap_map]
    show ((SortKey.ofSorting p.sorting).map SortKey.toEntry).flatMap _ = []
    rw [List.flatMap_map]
    exact termsClauses_sort p.sorting
  have haggregations : (FacetSearch.compile p).aggregations.toValue.termsClauses = [] := rfl
  rw [compile, Document.toBody]
  cases hfilter : (FacetSearch.compile p).filter with
  | none =>
      simp [Value.record, Value.termsClauses, Value.termsClausesOfEntries, Value.listedTerms?,
        hsort, haggregations]
  | some filter =>
      obtain ⟨range, -, rfl⟩ := Option.map_eq_some_iff.mp hfilter
      simp [Value.record, Value.termsClauses, Value.termsClausesOfEntries, Value.listedTerms?,
        hsort, haggregations, termsClauses_price]

end Service

/-! ## No clause is empty and none lists a term twice -/

/-- A name tells its values apart, whatever bars stand in it. -/
theorem propertyToken_injective (name : Text) : Function.Injective (propertyToken name) := by
  intro value value' h
  exact List.append_cancel_left h

theorem TaxonId.toValue_injective : Function.Injective TaxonId.toValue := by
  rintro (n | t) (m | u) h <;> simp_all [TaxonId.toValue]

/-- A terms clause lists something, and nothing twice. -/
def ListsOnce (clause : Text × List Value) : Prop := clause.2 ≠ [] ∧ clause.2.Nodup

namespace Service

theorem propertyTerms_listsOnce (name : Text) {values : List Text} (hfilled : values ≠ [])
    (h : values.Nodup) : ListsOnce (propertyTerms name values) := by
  have htoken : Function.Injective fun value => Value.text (propertyToken name value) := by
    intro value value' heq
    exact propertyToken_injective name (Value.text.inj heq)
  exact ⟨mt List.map_eq_nil_iff.mp hfilled, List.Nodup.map htoken h⟩

theorem taxonTerms_listOnce {ids : List TaxonId} (h : ids.Nodup) :
    ∀ clause ∈ taxonTerms ids, ListsOnce clause := by
  cases ids with
  | nil => exact List.forall_mem_nil _
  | cons id ids =>
      have hids : ((id :: ids).map TaxonId.toValue).Nodup :=
        List.Nodup.map TaxonId.toValue_injective h
      intro clause hclause
      obtain rfl := List.mem_singleton.mp hclause
      exact ⟨List.cons_ne_nil _ _, hids⟩

/-- Lists without repeats make clauses without repeats. -/
theorem termsClauses_listOnce {p : Params}
    (hproperties : ∀ property ∈ p.properties, property.2.Nodup) (htaxons : p.taxonIds.Nodup) :
    ∀ clause ∈ (compile p).termsClauses, ListsOnce clause := by
  rw [termsClauses_compile, List.forall_mem_append, List.forall_mem_map]
  refine ⟨?_, taxonTerms_listOnce htaxons⟩
  intro property hmem
  obtain ⟨hin, hfilled⟩ := List.mem_filter.mp hmem
  exact propertyTerms_listsOnce property.1 (of_decide_eq_true hfilled) (hproperties property hin)

end Service

end FacetSearch
