/-
# FacetSearch.Proofs.Selection — which products a compiled query selects.

A product is indexed under four fields: its properties as tokens, its taxon ids as they are, and the
two dates of its sale.  Given safe property names, the filter that narrows hits and facets selects a
product exactly if it has one of the asked values for every property that is asked for, is in one of
the asked taxons if any is asked for, and is on sale in the present hour.  Safety is what keeps a
token of one property from passing for a token of another.
-/
import FacetSearch.Proofs.Matching
import FacetSearch.Proofs.Sections
import FacetSearch.Proofs.Token
import FacetSearch.Proofs.WrittenForm

namespace FacetSearch

/-- The names of all properties are safe. -/
def Params.SafeNames (p : Params) : Prop := ∀ entry ∈ p.properties, SafeName entry.1

instance (p : Params) : Decidable p.SafeNames := inferInstanceAs (Decidable (∀ _ ∈ _, _))

/-- A product: its properties as pairs of a safe name and a value, the taxons that it is in, and the
dates between which it is on sale. -/
structure Product (τ : Type) where
  properties : Finset (Text × Text)
  taxonIds : Finset TaxonId
  availableOn : Option τ
  discontinueOn : Option τ
  safeNames : ∀ pair ∈ properties, SafeName pair.1

namespace Product

variable {τ : Type}

/-- What the engine holds of a product. -/
def indexed (product : Product τ) : Indexed τ where
  terms field :=
    if field = Field.properties.label then
      product.properties.image fun pair => .text (propertyToken pair.1 pair.2)
    else if field = Field.taxonIds.label then product.taxonIds.image Term.ofTaxonId
    else ∅
  date field :=
    if field = Field.availableOn.label then product.availableOn
    else if field = Field.discontinueOn.label then product.discontinueOn
    else none

variable (product : Product τ)

theorem indexed_properties : product.indexed.terms Field.properties.label =
    product.properties.image fun pair => .text (propertyToken pair.1 pair.2) := rfl

theorem indexed_taxonIds : product.indexed.terms Field.taxonIds.label =
    product.taxonIds.image Term.ofTaxonId := rfl

theorem indexed_availableOn :
    product.indexed.date Field.availableOn.label = product.availableOn := rfl

theorem indexed_discontinueOn :
    product.indexed.date Field.discontinueOn.label = product.discontinueOn := rfl

/-- The field of the end of sale holds nothing but the date. -/
theorem present_discontinueOn :
    product.indexed.present Field.discontinueOn.label = product.discontinueOn.isSome := by
  have hterms : product.indexed.terms Field.discontinueOn.label = ∅ := rfl
  simp [Indexed.present, hterms, indexed_discontinueOn]

/-- The product has one of the asked values for every property for which a value is asked. -/
def HasAsked (asked : List (Text × List Text)) : Prop :=
  ∀ name values, (name, values) ∈ asked → values ≠ [] →
    ∃ value ∈ values, (name, value) ∈ product.properties

/-- The product is in one of the asked taxons, if any is asked for. -/
def InAsked (asked : List TaxonId) : Prop := asked = [] ∨ ∃ id ∈ asked, id ∈ product.taxonIds

/-- The product is on sale in the present hour: its sale has begun and has not ended. -/
def OnSale [LE τ] (now : PresentHour τ) : Prop :=
  (∃ t, product.availableOn = some t ∧ t ≤ now.latest) ∧
    (product.discontinueOn = none ∨ ∃ t, product.discontinueOn = some t ∧ now.earliest ≤ t)

end Product

/-! ## What each clause asks of a product -/

namespace Facet

open Clause (selects selectsAll selectsAny)

variable {τ : Type} [LE τ] [DecidableLE τ] (now : PresentHour τ) (product : Product τ)

/-- The clause of one property. -/
theorem selects_property {name : Text} (hname : SafeName name) (values : List Text) :
    selects now product.indexed
        (.terms .properties (values.map fun value => .text (propertyToken name value))) = true ↔
      ∃ value ∈ values, (name, value) ∈ product.properties := by
  simp only [selects, Indexed.holdsAny, List.any_map, List.any_eq_true, Function.comp_apply,
    product.indexed_properties, Finset.mem_image, decide_eq_true_eq]
  constructor
  · rintro ⟨value, hvalue, ⟨name', value'⟩, hpair, htoken⟩
    -- the token in the field may be that of another name, were both names not safe
    have hname' : SafeName name' := product.safeNames _ hpair
    obtain ⟨rfl, rfl⟩ := (propertyToken_inj hname' hname).mp (Term.text.inj htoken)
    exact ⟨value', hvalue, hpair⟩
  · rintro ⟨value, hvalue, hpair⟩
    exact ⟨value, hvalue, (name, value), hpair, rfl⟩

/-- The clauses of all properties. -/
theorem selects_propertyClauses {asked : List (Text × List Text)}
    (hsafe : ∀ entry ∈ asked, SafeName entry.1) :
    (∀ c ∈ propertyClauses asked, selects now product.indexed c = true) ↔
      product.HasAsked asked := by
  simp only [propertyClauses, List.forall_mem_map, List.mem_filter, decide_eq_true_eq, and_imp,
    Prod.forall]
  constructor
  · intro h name values hentry hne
    exact (selects_property now product (hsafe _ hentry) values).mp (h name values hentry hne)
  · intro h name values hentry hne
    exact (selects_property now product (hsafe _ hentry) values).mpr (h name values hentry hne)

/-- The clause of the taxons, if there is one. -/
theorem selects_taxonClause (asked : List TaxonId) :
    (∀ c ∈ (taxonClause asked).toList, selects now product.indexed c = true) ↔
      product.InAsked asked := by
  cases asked with
  | nil => simp [taxonClause, Product.InAsked]
  | cons id ids =>
      simp [taxonClause, Product.InAsked, selects, Indexed.holdsAny, product.indexed_taxonIds,
        Term.ofTaxonId_injective.eq_iff]

/-- The two clauses of the dates. -/
theorem selects_dates :
    (∀ c ∈ [availability, discontinuation], selects now product.indexed c = true) ↔
      product.OnSale now := by
  simp only [List.forall_mem_cons, List.not_mem_nil, false_imp_iff, implies_true, and_true,
    availability, discontinuation, selects, selectsAny, Bool.or_false, Indexed.notAfter,
    Indexed.notBefore, product.present_discontinueOn, product.indexed_availableOn,
    product.indexed_discontinueOn, Product.OnSale]
  refine and_congr ?_ ?_
  · cases product.availableOn <;> simp
  · cases product.discontinueOn <;> simp

/-- Everything that narrows the facets. -/
theorem selects_ofParams (p : Params) (hsafe : p.SafeNames) :
    selects now product.indexed (ofParams p) = true ↔
      product.HasAsked p.properties ∧ product.InAsked p.taxonIds ∧ product.OnSale now := by
  rw [ofParams, selects, Clause.selectsAll_iff]
  simp only [List.forall_mem_append, and_assoc]
  rw [selects_propertyClauses now product hsafe, selects_taxonClause, selects_dates]

end Facet

/-! ## The filter of the compiled document -/

/-- **What a compiled query selects.** The document for parameters with safe names always has a
filter, the engine can read it, and it selects a product exactly if the product has an asked value
for each property with values, is in an asked taxon if there are any, and is on sale. -/
theorem compiled_filter_selects_iff {τ : Type} [LE τ] [DecidableLE τ] (now : PresentHour τ)
    (p : Params) (hsafe : p.SafeNames) (product : Product τ) :
    ∃ filter, Service.facetSection p = some filter ∧
      ∃ selected, Engine.accepts? now product.indexed filter = some selected ∧
        (selected = true ↔
          product.HasAsked p.properties ∧ product.InAsked p.taxonIds ∧ product.OnSale now) := by
  refine ⟨(Facet.ofParams p).toValue, Service.facetSection_eq p, ?_⟩
  refine ⟨(Facet.ofParams p).selects now product.indexed, ?_, ?_⟩
  · exact Engine.accepts?_toValue now product.indexed (Facet.ofParams p)
  · exact Facet.selects_ofParams now product p hsafe

/-- Parameters that ask for a value with bars under a name with a bar, for a property without
values, and for the taxon that is the number `5`. -/
def barredParams : Params where
  offset := 0
  query := none
  priceMin := none
  priceMax := none
  properties := [("a|b", ["blue", "||red"]), ("size", [])]
  taxonIds := [.number 5]
  browseMode := false
  sorting := .default

/-- A product that has the asked value, in the asked taxon if `id` is the number `5`. -/
def barredProduct (id : TaxonId) : Product Int where
  properties := {(Text.ofString "a|b", Text.ofString "||red"),
    (Text.ofString "a", Text.ofString "b||||red")}
  taxonIds := {id}
  availableOn := some 10
  discontinueOn := none
  safeNames := by decide

theorem compiled_filter_selects_barred :
    barredParams.SafeNames ∧
      (∃ filter, Service.facetSection barredParams = some filter ∧
        Engine.accepts? ⟨10, 9⟩ (barredProduct (.number 5)).indexed filter = some true) ∧
      (∃ filter, Service.facetSection barredParams = some filter ∧
        Engine.accepts? ⟨10, 9⟩ (barredProduct (.word "5")).indexed filter = some false) := by
  have hsafe : barredParams.SafeNames := by decide
  have hasked (id : TaxonId) : (barredProduct id).HasAsked barredParams.properties := by
    intro name values hentry hne
    rcases List.mem_cons.mp hentry with heq | hrest
    · obtain ⟨rfl, rfl⟩ := Prod.mk.inj heq
      exact ⟨"||red", by decide, Finset.mem_insert_self _ _⟩
    · obtain ⟨rfl, rfl⟩ := Prod.mk.inj (List.mem_singleton.mp hrest)
      exact absurd rfl hne
  have hsale (id : TaxonId) : (barredProduct id).OnSale ⟨10, 9⟩ :=
    ⟨⟨10, rfl, by decide⟩, Or.inl rfl⟩
  refine ⟨hsafe, ?_, ?_⟩
  · obtain ⟨filter, hfilter, selected, haccepts, hiff⟩ :=
      compiled_filter_selects_iff ⟨10, 9⟩ barredParams hsafe (barredProduct (.number 5))
    refine ⟨filter, hfilter, ?_⟩
    rw [haccepts, hiff.mpr ⟨hasked _, Or.inr ⟨.number 5, by decide, by decide⟩, hsale _⟩]
  · obtain ⟨filter, hfilter, selected, haccepts, hiff⟩ :=
      compiled_filter_selects_iff ⟨10, 9⟩ barredParams hsafe (barredProduct (.word "5"))
    refine ⟨filter, hfilter, ?_⟩
    have hnot : ¬ (barredProduct (.word "5")).InAsked barredParams.taxonIds := by
      unfold Product.InAsked
      decide
    rw [haccepts, Bool.eq_false_iff.mpr fun hsel => hnot (hiff.mp hsel).2.1]

end FacetSearch
