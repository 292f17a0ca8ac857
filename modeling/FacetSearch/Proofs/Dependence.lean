/-
# FacetSearch.Proofs.Dependence — exactly what a compiled document depends on.

Every section of a compiled document shows one part of the parameters, all that matters of it and
nothing besides.  What does not matter is the browse mode, a blank search text, a property without
values, a price range that is not in effect, the digits of a price past a double, and whether the
default order is asked for by the name of the score.
-/
import FacetSearch.Proofs.ExactOrder
import FacetSearch.Proofs.Selection

namespace FacetSearch

/-! ## What matters of each part -/

/-- No text to search for: none is given, or a blank one. -/
def BlankQuery (query : Option Text) : Prop := ∀ t, query = some t → t.isBlank = true

/-- Two queries search for the same: both for nothing, or both for one text that is not blank. -/
def SameText (query query' : Option Text) : Prop :=
  (BlankQuery query ∧ BlankQuery query') ∨
    ∃ t, query = some t ∧ query' = some t ∧ t.isBlank = false

/-- The entries of the properties for which a value is asked, in order. -/
def Params.asked (p : Params) : List (Text × List Text) := p.properties.filter (·.2 ≠ [])

/-- Both ends are given, and the number `low` is less than the number `high`. -/
def RangeInEffect (low high : Option Decimal) : Prop :=
  ∃ a b, low = some a ∧ high = some b ∧ a.value < b.value

/-- Two price ranges filter alike: neither is in effect, or both are and their ends are the same
doubles. -/
def SamePrices (low high low' high' : Option Decimal) : Prop :=
  (¬ RangeInEffect low high ∧ ¬ RangeInEffect low' high') ∨
    (RangeInEffect low high ∧ RangeInEffect low' high' ∧
      low.map Decimal.toBinary64 = low'.map Decimal.toBinary64 ∧
      high.map Decimal.toBinary64 = high'.map Decimal.toBinary64)

/-- The mode that a mode comes down to: ordering by score is the default. -/
def Sorting.identified : Sorting → Sorting
  | .score => .default
  | mode => mode

/-- Two searches ask for the same. -/
structure SameDemand (p q : Params) : Prop where
  text : SameText p.query q.query
  asked : p.asked = q.asked
  taxonIds : p.taxonIds = q.taxonIds
  prices : SamePrices p.priceMin p.priceMax q.priceMin q.priceMax
  sorting : p.sorting.identified = q.sorting.identified
  offset : p.offset = q.offset

/-! ## Search texts -/

theorem TextClause.ofQuery_blank {query : Option Text} (h : BlankQuery query) :
    ofQuery query = .matchAll := by
  cases query with
  | none => rfl
  | some t => simp [ofQuery, h t rfl]

theorem blankQuery_or_text (query : Option Text) :
    BlankQuery query ∨ ∃ t, query = some t ∧ t.isBlank = false := by
  cases query with
  | none => exact Or.inl fun _ h => absurd h (by simp)
  | some t =>
      by_cases h : t.isBlank = true
      · exact Or.inl fun u hu => Option.some.inj hu ▸ h
      · exact Or.inr ⟨t, rfl, Bool.eq_false_iff.mpr h⟩

theorem TextClause.ofQuery_eq_iff (query query' : Option Text) :
    ofQuery query = ofQuery query' ↔ SameText query query' := by
  constructor
  · intro h
    rcases blankQuery_or_text query with hb | ⟨t, rfl, ht⟩
    · rcases blankQuery_or_text query' with hb' | ⟨t', rfl, ht'⟩
      · exact Or.inl ⟨hb, hb'⟩
      · rw [ofQuery_blank hb, ofQuery_text ht'] at h
        exact absurd h (by simp)
    · rcases blankQuery_or_text query' with hb' | ⟨t', rfl, ht'⟩
      · rw [ofQuery_text ht, ofQuery_blank hb'] at h
        exact absurd h (by simp)
      · rw [ofQuery_text ht, ofQuery_text ht'] at h
        obtain rfl := escapeQuotes_injective (TextClause.queryString.inj h)
        exact Or.inr ⟨t, rfl, rfl, ht⟩
  · rintro (⟨hb, hb'⟩ | ⟨t, rfl, rfl, -⟩)
    · rw [ofQuery_blank hb, ofQuery_blank hb']
    · rfl

/-! ## Facets -/

/-- A clause about the values of a field. -/
def Clause.lists (f : Field) : Clause → Bool
  | .terms g _ => g = f
  | _ => false

namespace Facet

theorem filter_propertyClauses (properties : List (Text × List Text)) :
    (propertyClauses properties).filter (Clause.lists .properties) = propertyClauses properties ∧
      (propertyClauses properties).filter (Clause.lists .taxonIds) = [] := by
  constructor
  · rw [List.filter_eq_self]
    exact List.forall_mem_map.mpr fun _ _ => rfl
  · rw [List.filter_eq_nil_iff]
    exact List.forall_mem_map.mpr fun _ _ => Bool.false_ne_true

theorem filter_taxonClause (ids : List TaxonId) :
    (taxonClause ids).toList.filter (Clause.lists .taxonIds) = (taxonClause ids).toList ∧
      (taxonClause ids).toList.filter (Clause.lists .properties) = [] := by
  cases ids <;> simp [taxonClause, Clause.lists]

/-- The one list of clauses can be taken apart again, since the field of a clause says which part it
belongs to. -/
theorem ofParams_eq_iff (p q : Params) :
    ofParams p = ofParams q ↔
      propertyClauses p.properties = propertyClauses q.properties ∧
        taxonClause p.taxonIds = taxonClause q.taxonIds := by
  constructor
  · intro h
    -- the two clauses of the dates are the same on both sides and come last
    have hparts := List.append_cancel_right (Clause.all.inj h)
    have hproperties := congrArg (List.filter (Clause.lists .properties)) hparts
    have htaxons := congrArg (List.filter (Clause.lists .taxonIds)) hparts
    simp only [List.filter_append, filter_propertyClauses, filter_taxonClause, List.append_nil,
      List.nil_append] at hproperties htaxons
    exact ⟨hproperties, by simpa using congrArg List.head? htaxons⟩
  · rintro ⟨hproperties, htaxons⟩
    rw [ofParams, ofParams, hproperties, htaxons]

theorem taxonClause_injective : Function.Injective taxonClause := by
  rintro (_ | ⟨i, is⟩) (_ | ⟨j, js⟩) h
  · rfl
  · exact absurd h (by simp [taxonClause])
  · exact absurd h (by simp [taxonClause])
  · simp only [taxonClause, Option.some.injEq, Clause.terms.injEq, true_and] at h
    exact List.map_injective_iff.mpr Term.ofTaxonId_injective h

/-- The clause of one property. -/
theorem propertyClause_inj {name name' : Text} (h : SafeName name) (h' : SafeName name')
    {values values' : List Text} (hne : values ≠ []) :
    Clause.terms .properties (values.map fun value => .text (propertyToken name value)) =
        Clause.terms .properties (values'.map fun value => .text (propertyToken name' value)) ↔
      name = name' ∧ values = values' := by
  have htext : Function.Injective (List.map Term.text) :=
    List.map_injective_iff.mpr fun _ _ => Term.text.inj
  rw [Clause.terms.injEq, ← map_propertyToken_inj h h' hne, ← htext.eq_iff, List.map_map,
    List.map_map]
  exact and_iff_right rfl

/-- The clauses of all properties, for entries with values under safe names. -/
theorem map_propertyClause_inj {entries entries' : List (Text × List Text)}
    (h : ∀ entry ∈ entries, SafeName entry.1 ∧ entry.2 ≠ [])
    (h' : ∀ entry ∈ entries', SafeName entry.1 ∧ entry.2 ≠ [])
    (heq : (entries.map fun (name, values) =>
        Clause.terms .properties (values.map fun value => .text (propertyToken name value))) =
      entries'.map fun (name, values) =>
        Clause.terms .properties (values.map fun value => .text (propertyToken name value))) :
    entries = entries' := by
  induction entries generalizing entries' with
  | nil =>
      cases entries' with
      | nil => rfl
      | cons entry' rest' => exact absurd heq (by simp)
  | cons entry rest ih =>
      cases entries' with
      | nil => exact absurd heq (by simp)
      | cons entry' rest' =>
          -- a clause has at least one token, and one token tells the name for all of them
          obtain ⟨hhead, htail⟩ := List.cons.inj heq
          rw [List.forall_mem_cons] at h h'
          obtain ⟨hname, hvalues⟩ := (propertyClause_inj h.1.1 h'.1.1 h.1.2).mp hhead
          rw [Prod.ext hname hvalues, ih h.2 h'.2 htail]

theorem propertyClauses_eq_iff {p q : Params} (hp : p.SafeNames) (hq : q.SafeNames) :
    propertyClauses p.properties = propertyClauses q.properties ↔ p.asked = q.asked := by
  have hasked {r : Params} (hr : r.SafeNames) :
      ∀ entry ∈ r.asked, SafeName entry.1 ∧ entry.2 ≠ [] := by
    intro entry hentry
    obtain ⟨hmem, hvalues⟩ := List.mem_filter.mp hentry
    exact ⟨hr entry hmem, of_decide_eq_true hvalues⟩
  constructor
  · exact map_propertyClause_inj (hasked hp) (hasked hq)
  · intro h
    exact congrArg (List.map _) h

end Facet

/-! ## Prices and orders -/

theorem PriceRange.ofPrices_inEffect {a b : Decimal} (h : a.value < b.value) :
    ofPrices (some a) (some b) = some ⟨a.toBinary64, b.toBinary64⟩ :=
  if_pos ((Decimal.lt_iff a b).mpr h)

theorem PriceRange.ofPrices_notInEffect {low high : Option Decimal}
    (h : ¬ RangeInEffect low high) : ofPrices low high = none := by
  rcases low with _ | a
  · rfl
  · rcases high with _ | b
    · rfl
    · refine if_neg fun hlt => h ?_
      exact ⟨a, b, rfl, rfl, (Decimal.lt_iff a b).mp hlt⟩

theorem PriceRange.ofPrices_eq_iff (low high low' high' : Option Decimal) :
    ofPrices low high = ofPrices low' high' ↔ SamePrices low high low' high' := by
  by_cases h : RangeInEffect low high
  · by_cases h' : RangeInEffect low' high'
    · obtain ⟨a, b, rfl, rfl, hlt⟩ := h
      obtain ⟨c, d, rfl, rfl, hlt'⟩ := h'
      have heffect : RangeInEffect (some a) (some b) := ⟨a, b, rfl, rfl, hlt⟩
      have heffect' : RangeInEffect (some c) (some d) := ⟨c, d, rfl, rfl, hlt'⟩
      rw [ofPrices_inEffect hlt, ofPrices_inEffect hlt']
      simp [SamePrices, heffect, heffect']
    · obtain ⟨a, b, rfl, rfl, hlt⟩ := h
      have heffect : RangeInEffect (some a) (some b) := ⟨a, b, rfl, rfl, hlt⟩
      rw [ofPrices_inEffect hlt, ofPrices_notInEffect h']
      simp [SamePrices, heffect, h']
  · by_cases h' : RangeInEffect low' high'
    · obtain ⟨c, d, rfl, rfl, hlt'⟩ := h'
      have heffect' : RangeInEffect (some c) (some d) := ⟨c, d, rfl, rfl, hlt'⟩
      rw [ofPrices_notInEffect h, ofPrices_inEffect hlt']
      simp [SamePrices, h, heffect']
    · rw [ofPrices_notInEffect h, ofPrices_notInEffect h']
      simp [SamePrices, h, h']

theorem SortKey.ofSorting_eq_iff (s t : Sorting) :
    ofSorting s = ofSorting t ↔ s.identified = t.identified := by
  cases s <;> cases t <;> decide

/-! ## The sections -/

section Sections

variable {p q : Params}

theorem textSection_eq_iff :
    Service.textSection p = Service.textSection q ↔ SameText p.query q.query := by
  rw [Service.textSection_eq, Service.textSection_eq, Option.some.injEq,
    TextClause.toValue_injective.eq_iff, TextClause.ofQuery_eq_iff]

theorem facetSection_eq_iff (hp : p.SafeNames) (hq : q.SafeNames) :
    Service.facetSection p = Service.facetSection q ↔
      p.asked = q.asked ∧ p.taxonIds = q.taxonIds := by
  rw [Service.facetSection_eq, Service.facetSection_eq, Option.some.injEq,
    Clause.toValue_injective.eq_iff, Facet.ofParams_eq_iff, Facet.propertyClauses_eq_iff hp hq,
    Facet.taxonClause_injective.eq_iff]

theorem priceSection_eq_iff :
    Service.priceSection p = Service.priceSection q ↔
      SamePrices p.priceMin p.priceMax q.priceMin q.priceMax := by
  rw [Service.priceSection_eq, Service.priceSection_eq,
    (Option.map_injective PriceRange.toValue_injective).eq_iff, PriceRange.ofPrices_eq_iff]

theorem sortSection_eq_iff :
    Service.sortSection p = Service.sortSection q ↔
      p.sorting.identified = q.sorting.identified := by
  rw [Service.sortSection_eq, Service.sortSection_eq, Option.some.injEq, Value.list.injEq,
    (List.map_injective_iff.mpr SortKey.toValue_injective).eq_iff, SortKey.ofSorting_eq_iff]

theorem offsetSection_eq_iff :
    Service.offsetSection p = Service.offsetSection q ↔ p.offset = q.offset := by
  rw [Service.offsetSection_eq, Service.offsetSection_eq, Option.some.injEq, Value.int.injEq]

end Sections

/-- A document is made of what its query comes down to, part by part. -/
theorem SameDemand.compile_eq {p q : Params} (h : SameDemand p q) :
    Service.compile p = Service.compile q := by
  have htext := (TextClause.ofQuery_eq_iff _ _).mpr h.text
  have hprice := (PriceRange.ofPrices_eq_iff _ _ _ _).mpr h.prices
  have hsort := (SortKey.ofSorting_eq_iff _ _).mpr h.sorting
  have hproperties : Facet.propertyClauses p.properties = Facet.propertyClauses q.properties :=
    congrArg (List.map _) h.asked
  have hfacets : Facet.ofParams p = Facet.ofParams q :=
    (Facet.ofParams_eq_iff p q).mpr ⟨hproperties, congrArg Facet.taxonClause h.taxonIds⟩
  have hquery : CompiledQuery.ofParams p = CompiledQuery.ofParams q := by
    simp only [CompiledQuery.ofParams, htext, hfacets, hprice, hsort, h.offset]
  exact congrArg (fun query => query.toDocument.toBody) hquery

/-- **Exactly what a compiled document depends on.** For parameters with safe names, each section of
one document is that of another exactly if the part of the parameters behind it asks for the same;
the score threshold and the aggregations are always the same, the browse mode is not seen, and the
documents are equal exactly if all parts ask for the same. -/
theorem compiled_document_eq_iff (p q : Params) (hp : p.SafeNames) (hq : q.SafeNames) :
    (Service.textSection p = Service.textSection q ↔ SameText p.query q.query) ∧
    (Service.facetSection p = Service.facetSection q ↔
      p.asked = q.asked ∧ p.taxonIds = q.taxonIds) ∧
    (Service.priceSection p = Service.priceSection q ↔
      SamePrices p.priceMin p.priceMax q.priceMin q.priceMax) ∧
    (Service.sortSection p = Service.sortSection q ↔
      p.sorting.identified = q.sorting.identified) ∧
    (Service.offsetSection p = Service.offsetSection q ↔ p.offset = q.offset) ∧
    Service.scoreSection p = Service.scoreSection q ∧
    Service.aggregationSection p = Service.aggregationSection q ∧
    (∀ mode, Service.compile { p with browseMode := mode } = Service.compile p) ∧
    (Service.compile p = Service.compile q ↔ SameDemand p q) := by
  refine ⟨textSection_eq_iff, facetSection_eq_iff hp hq, priceSection_eq_iff, sortSection_eq_iff,
    offsetSection_eq_iff, ?_, ?_, fun _ => rfl, ?_⟩
  · rw [Service.scoreSection_eq, Service.scoreSection_eq]
  · rw [Service.aggregationSection_eq, Service.aggregationSection_eq]
  · refine ⟨?_, SameDemand.compile_eq⟩
    intro h
    -- equal documents have equal sections, and each section tells its part
    have hsection (path : List Text) :
        (Service.compile p).at? path = (Service.compile q).at? path := by rw [h]
    have hfacets := (facetSection_eq_iff hp hq).mp (hsection _)
    exact {
      text := textSection_eq_iff.mp (hsection _)
      asked := hfacets.1
      taxonIds := hfacets.2
      prices := priceSection_eq_iff.mp (hsection _)
      sorting := sortSection_eq_iff.mp (hsection _)
      offset := offsetSection_eq_iff.mp (hsection _) }

/-- `barredParams` in other words: with a blank search text, prices that are equal as numbers, no
entry for the property without values, and the default order under its other name. -/
def rewordedParams (id : TaxonId) : Params where
  offset := 0
  query := some " "
  priceMin := some ⟨false, 5, 0⟩
  priceMax := some ⟨false, 50, -1⟩
  properties := [("a|b", ["blue", "||red"])]
  taxonIds := [id]
  browseMode := true
  sorting := .score

theorem compiled_document_reworded :
    barredParams.SafeNames ∧ (∀ id, (rewordedParams id).SafeNames) ∧
      Service.compile barredParams = Service.compile (rewordedParams (.number 5)) ∧
      Service.compile barredParams ≠ Service.compile (rewordedParams (.word "5")) := by
  have hbarred : barredParams.SafeNames := by decide
  have hreworded (id : TaxonId) : (rewordedParams id).SafeNames := by
    show ∀ entry ∈ [(Text.ofString "a|b", [Text.ofString "blue", Text.ofString "||red"])],
      SafeName entry.1
    decide
  have hiff (id : TaxonId) :=
    (compiled_document_eq_iff barredParams (rewordedParams id) hbarred
      (hreworded id)).2.2.2.2.2.2.2.2
  refine ⟨hbarred, hreworded, ?_, ?_⟩
  · refine (hiff (.number 5)).mpr {
      text := Or.inl ⟨nofun, fun t h => ?_⟩
      asked := by decide
      taxonIds := rfl
      prices := Or.inl ⟨?_, ?_⟩
      sorting := rfl
      offset := rfl }
    · rw [← Option.some.inj h]
      decide
    · rintro ⟨_, _, ⟨⟩, -⟩
    · rintro ⟨a, b, ha, hb, hlt⟩
      rw [← Option.some.inj ha, ← Option.some.inj hb] at hlt
      norm_num [Decimal.value, Decimal.magnitude] at hlt
  · intro h
    exact absurd ((hiff (.word "5")).mp h).taxonIds (by decide)

end FacetSearch
