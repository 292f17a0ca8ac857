/-
# FacetSearch.Proofs.Construction — a compiled document can be built and can be written.

A document is built from the arguments that compiling hands over, and building it reads them as
strictly as any other input.  Nothing that compiling hands over is refused.  The finished document
is a JSON value of small depth whose words and numbers come from the parameters: it holds a
surrogate only where they do, and a number that is not finite only at the ends of a price range.
-/
import FacetSearch.Proofs.JsonText
import FacetSearch.Search.Service

namespace FacetSearch

open Validation

/-! ## Building a document -/

namespace Document

/-- An optional dictionary as a value. -/
def filterValue : Option Record → Value
  | some filter => filter.toValue
  | none => .null

/-- The arguments from which a document is built. -/
def arguments (d : Document) : Entries :=
  [("min_score", .float d.minScore), ("query", d.query.toValue), ("filter", filterValue d.filter),
    ("sort", .list (d.sort.map SortEntry.toValue)), ("from_", .int d.offset),
    ("aggregations", d.aggregations.toValue)]

/-- No dictionary in the parts of a document has a name twice. -/
structure DistinctNames (d : Document) : Prop where
  query : (d.query.map Prod.fst).Nodup
  filter : ∀ filter, d.filter = some filter → (filter.map Prod.fst).Nodup
  sort : ∀ r, SortEntry.record r ∈ d.sort → (r.map Prod.fst).Nodup
  aggregations : (d.aggregations.map Prod.fst).Nodup

/-- The parts of an accepted document. -/
structure Accepted (entries : Entries) (d : Document) : Prop where
  minScore : required entries "min_score" (scalar float?) = .ok d.minScore
  query : required entries "query" record = .ok d.query
  filter : field entries "filter" (nullable record) (.ok none) = .ok d.filter
  sort : required entries "sort" (listOf SortEntry.read) = .ok d.sort
  offset : fieldEither entries "from" "from_" (scalar int?) (.ok 0) = .ok d.offset
  aggregations : required entries "aggregations" record = .ok d.aggregations

/-- A document is read exactly part by part. -/
theorem Accepted.read {entries : Entries} {d : Document} (h : Accepted entries d) :
    Document.read (.dict entries) = .ok d := by
  simp only [Document.read, ofEntries, h.minScore, h.query, h.filter, h.sort, h.offset,
    h.aggregations, Checked.ap_ok]

theorem read_sortEntry {entry : SortEntry}
    (h : ∀ r, entry = .record r → (r.map Prod.fst).Nodup) :
    SortEntry.read entry.toValue = .ok entry := by
  cases entry with
  | name t =>
      have htext : SortEntry.trying "str" (scalar text? (.text t)) = .ok t :=
        congrArg (Checked.under _) (scalar_text t)
      simp only [SortEntry.toValue, SortEntry.read, htext]
  | record r =>
      -- a dictionary is no text, so the first attempt fails and the second one is taken
      have hrecord : SortEntry.trying "dict[str,any]" (Validation.record r.toValue) = .ok r :=
        congrArg (Checked.under _) (record_toValue (h r rfl))
      simp only [SortEntry.toValue, SortEntry.read, hrecord]
      rfl

theorem read_filterValue {filter : Option Record}
    (h : ∀ r, filter = some r → (r.map Prod.fst).Nodup) :
    nullable record (filterValue filter) = .ok filter := by
  cases filter with
  | none => rfl
  | some r =>
      show (record r.toValue).map some = _
      rw [record_toValue (h r rfl)]
      rfl

theorem read_sort {entries : List SortEntry}
    (h : ∀ r, SortEntry.record r ∈ entries → (r.map Prod.fst).Nodup) :
    listOf SortEntry.read (.list (entries.map SortEntry.toValue)) = .ok entries := by
  refine listOf_eq_ok_iff.mpr ⟨_, rfl, ?_⟩
  rw [List.forall₂_map_left_iff, List.forall₂_same]
  exact fun entry hentry => read_sortEntry fun r hr => h r (hr ▸ hentry)

/-- **A document is built from its own parts.** -/
theorem read_arguments {d : Document} (h : d.DistinctNames) :
    Document.read (.dict d.arguments) = .ok d := by
  have minScore : Entries.get? d.arguments "min_score" = some (.float d.minScore) := rfl
  have query : Entries.get? d.arguments "query" = some d.query.toValue := rfl
  have filter : Entries.get? d.arguments "filter" = some (filterValue d.filter) := rfl
  have sort : Entries.get? d.arguments "sort" =
      some (.list (d.sort.map SortEntry.toValue)) := rfl
  have offset : Entries.get? d.arguments "from_" = some (.int d.offset) := rfl
  have noOffset : Entries.get? d.arguments "from" = none := rfl
  have aggregations : Entries.get? d.arguments "aggregations" = some d.aggregations.toValue := rfl
  refine Accepted.read ⟨?_, ?_, ?_, ?_, ?_, ?_⟩
  · refine required_present minScore ?_
    rfl
  · exact required_present query (record_toValue h.query)
  · exact field_present filter (read_filterValue h.filter) _
  · exact required_present sort (read_sort h.sort)
  · rw [fieldEither, field_absent noOffset]
    refine field_present offset ?_ _
    rfl
  · exact required_present aggregations (record_toValue h.aggregations)

end Document

theorem compile_distinctNames (p : Params) : (compile p).DistinctNames where
  query := by
    show [Text.ofString "bool"].Nodup
    decide
  filter := by
    intro filter hfilter
    obtain ⟨range, -, rfl⟩ := Option.map_eq_some_iff.mp hfilter
    show [Text.ofString "range"].Nodup
    decide
  sort := by
    intro r hr
    obtain ⟨key, -, hkey⟩ := List.mem_map.mp hr
    cases key with
    | score => exact absurd hkey nofun
    | field f direction =>
        rw [← SortEntry.record.inj hkey]
        exact List.nodup_singleton _
  aggregations := by
    show [Text.ofString "price", Text.ofString "properties", Text.ofString "taxon_ids"].Nodup
    decide

/-- **Compiling always succeeds**: the document is accepted when it is built. -/
theorem read_compile_arguments (p : Params) :
    Document.read (.dict (compile p).arguments) = .ok (compile p) :=
  Document.read_arguments (compile_distinctNames p)

/-! ## Depth and leaves of a document -/

/-- A JSON value with the given leaves in which at most `depth` values stand in one another. -/
structure Value.Fits (leaves : JsonLeaves) (depth : Nat) (v : Value) : Prop where
  json : v.IsJson leaves
  shallow : Json.nesting v ≤ depth

/-- Leaves among which are all that a document has whatever is asked: integers, words without
surrogates, the score threshold. -/
structure JsonLeaves.Usual (leaves : JsonLeaves) : Prop where
  integer : ∀ n, leaves.integer n
  number : leaves.number minScore
  word : ∀ t : Text, t.isScalar = true → leaves.word t

variable {leaves : JsonLeaves}

theorem JsonLeaves.Usual.label (hleaves : leaves.Usual) (s : String) :
    leaves.word (Text.ofString s) :=
  hleaves.word _ (Text.isScalar_ofString s)

namespace Value.Fits

variable {depth : Nat}

theorem mono {v : Value} (h : v.Fits leaves depth) {depth' : Nat} (hle : depth ≤ depth') :
    v.Fits leaves depth' :=
  ⟨h.json, Nat.le_trans h.shallow hle⟩

theorem bool (b : Bool) : (Value.bool b).Fits leaves 1 := ⟨.bool b, Nat.le_refl 1⟩

theorem int {n : Int} (h : leaves.integer n) : (Value.int n).Fits leaves 1 :=
  ⟨.int h, Nat.le_refl 1⟩

theorem float {x : Binary64} (h : leaves.number x) : (Value.float x).Fits leaves 1 :=
  ⟨.float h, Nat.le_refl 1⟩

theorem text {t : Text} (h : leaves.word t) : (Value.text t).Fits leaves 1 :=
  ⟨.text h, Nat.le_refl 1⟩

theorem nestingOfAll_le {xs : List Value} (h : ∀ x ∈ xs, Json.nesting x ≤ depth) :
    Json.nestingOfAll xs ≤ depth := by
  induction xs with
  | nil => exact Nat.zero_le _
  | cons x xs ih =>
      rw [List.forall_mem_cons] at h
      exact Nat.max_le.mpr ⟨h.1, ih h.2⟩

theorem nestingOfEntries_le {r : Record} (h : ∀ member ∈ r, Json.nesting member.2 ≤ depth) :
    Json.nestingOfEntries r.entries ≤ depth := by
  induction r with
  | nil => exact Nat.zero_le _
  | cons member rest ih =>
      rw [List.forall_mem_cons] at h
      exact Nat.max_le.mpr ⟨h.1, ih h.2⟩

theorem nesting_le_nestingOfEntries {r : Record} :
    ∀ member ∈ r, Json.nesting member.2 ≤ Json.nestingOfEntries r.entries := by
  induction r with
  | nil => exact nofun
  | cons member rest ih =>
      refine List.forall_mem_cons.mpr ⟨Nat.le_max_left _ _, ?_⟩
      intro member' hmember'
      exact Nat.le_trans (ih member' hmember') (Nat.le_max_right _ _)

/-- The members of an object leave room for the object itself. -/
theorem nesting_member_lt {r : Record} (h : (Value.dict r.entries).Fits leaves depth) :
    ∀ member ∈ r, Json.nesting member.2 < depth := fun member hmember =>
  Nat.lt_of_lt_of_le (Nat.lt_succ_of_le (nesting_le_nestingOfEntries member hmember)) h.shallow

theorem list {xs : List Value} (h : ∀ x ∈ xs, x.Fits leaves depth) :
    (Value.list xs).Fits leaves (depth + 1) :=
  ⟨.list fun x hx => (h x hx).json,
    Nat.succ_le_succ (nestingOfAll_le fun x hx => (h x hx).shallow)⟩

theorem dict {r : Record} (distinct : (r.map Prod.fst).Nodup)
    (names : ∀ member ∈ r, leaves.word member.1) (h : ∀ member ∈ r, member.2.Fits leaves depth) :
    (Value.dict r.entries).Fits leaves (depth + 1) :=
  ⟨.dict distinct names fun member hm => (h member hm).json,
    Nat.succ_le_succ (nestingOfEntries_le fun member hm => (h member hm).shallow)⟩

theorem single {name : Text} (hname : leaves.word name) {v : Value} (h : v.Fits leaves depth) :
    (Clause.single name v).Fits leaves (depth + 1) :=
  dict (r := [(name, v)]) (List.nodup_singleton name) (List.forall_mem_singleton.mpr hname)
    (List.forall_mem_singleton.mpr h)

theorem record (hleaves : leaves.Usual) {fields : List (String × Value)}
    (distinct : (fields.map fun field => Text.ofString field.1).Nodup)
    (h : ∀ field ∈ fields, field.2.Fits leaves depth) :
    (Value.record fields).Fits leaves (depth + 1) := by
  rw [Value.record_eq]
  refine dict ?_ ?_ ?_
  · simpa [Function.comp_def] using distinct
  · exact List.forall_mem_map.mpr fun field _ => hleaves.label field.1
  · exact List.forall_mem_map.mpr h

end Value.Fits

/-! ## The parts of a document -/

/-- What parameters bring into a document may stand at its leaves. -/
structure Params.Admitted (leaves : JsonLeaves) (p : Params) : Prop where
  query : ∀ t, p.query = some t → leaves.word (escapeQuotes t)
  properties : ∀ entry ∈ p.properties, ∀ value ∈ entry.2, leaves.word (propertyToken entry.1 value)
  taxonIds : ∀ t, TaxonId.word t ∈ p.taxonIds → leaves.word t
  range : ∀ range, PriceRange.ofPrices p.priceMin p.priceMax = some range →
    leaves.number range.low ∧ leaves.number range.high

theorem Field.isScalar_label (f : Field) : f.label.isScalar = true := by
  cases f <;> exact Text.isScalar_ofString _

section Parts

variable (hleaves : leaves.Usual)

include hleaves

theorem TextClause.fits_matchAll : matchAll.toValue.Fits leaves 4 := by
  have hnothing : (Value.dict []).Fits leaves 1 :=
    ⟨.dict (r := []) List.nodup_nil nofun nofun, Nat.le_refl 1⟩
  have hclause : matchAll.toValue.Fits leaves 2 :=
    .record hleaves (by decide) (List.forall_mem_singleton.mpr hnothing)
  exact hclause.mono (by decide)

theorem TextClause.fits_queryString {t : Text} (h : leaves.word t) :
    (queryString t).toValue.Fits leaves 4 := by
  have hfields : (Value.list (searchFields.map Value.text)).Fits leaves 2 := by
    have hlabels : ∀ label ∈ searchFields, label.isScalar = true := by decide
    exact .list (List.forall_mem_map.mpr fun label hlabel =>
      .text (hleaves.word label (hlabels label hlabel)))
  have hnames : [Text.ofString "query", Text.ofString "fields", Text.ofString "default_operator",
      Text.ofString "use_dis_max"].Nodup := by decide
  refine .record hleaves (List.nodup_singleton _) (List.forall_mem_singleton.mpr ?_)
  refine .record hleaves hnames ?_
  simp only [List.forall_mem_cons]
  exact ⟨(Value.Fits.text h).mono (by decide), hfields,
    (Value.Fits.text (hleaves.label "AND")).mono (by decide),
    (Value.Fits.bool true).mono (by decide), nofun⟩

theorem TextClause.fits {query : Option Text}
    (h : ∀ t, query = some t → leaves.word (escapeQuotes t)) :
    (ofQuery query).toValue.Fits leaves 4 := by
  cases query with
  | none => exact fits_matchAll hleaves
  | some t =>
      by_cases hblank : t.isBlank = true
      · rw [ofQuery, if_pos hblank]
        exact fits_matchAll hleaves
      · rw [ofQuery, if_neg hblank]
        exact fits_queryString hleaves (h t rfl)

theorem Clause.fits_termsValue (f : Field) {listed : List Value}
    (h : ∀ v ∈ listed, v.Fits leaves 1) : (termsValue f listed).Fits leaves 4 :=
  .single (hleaves.label _) (.single (hleaves.word _ f.isScalar_label) (.list h))

theorem Clause.fits_all {depth : Nat} {clauses : List Clause}
    (h : ∀ c ∈ clauses, c.toValue.Fits leaves depth) :
    (toValue (.all clauses)).Fits leaves (depth + 3) := by
  have hvalues : ∀ v ∈ toValues clauses, v.Fits leaves depth := by
    induction clauses with
    | nil => exact nofun
    | cons c cs ih =>
        rw [List.forall_mem_cons] at h
        exact List.forall_mem_cons.mpr ⟨h.1, ih h.2⟩
  exact .single (hleaves.label _) (.single (hleaves.label _) (.list hvalues))

theorem Facet.fits_propertyClauses {properties : List (Text × List Text)}
    (h : ∀ entry ∈ properties, ∀ value ∈ entry.2, leaves.word (propertyToken entry.1 value)) :
    ∀ c ∈ propertyClauses properties, c.toValue.Fits leaves 4 := by
  intro c hc
  obtain ⟨entry, hentry, rfl⟩ := List.mem_map.mp hc
  refine Clause.fits_termsValue hleaves .properties ?_
  rw [List.forall_mem_map, List.forall_mem_map]
  exact fun value hvalue => .text (h entry (List.mem_filter.mp hentry).1 value hvalue)

theorem Facet.fits_taxonClause {ids : List TaxonId}
    (h : ∀ t, TaxonId.word t ∈ ids → leaves.word t) :
    ∀ c ∈ (taxonClause ids).toList, c.toValue.Fits leaves 4 := by
  cases ids with
  | nil => exact nofun
  | cons id ids =>
      refine List.forall_mem_singleton.mpr (Clause.fits_termsValue hleaves .taxonIds ?_)
      rw [List.forall_mem_map, List.forall_mem_map]
      intro id' hid'
      cases id' with
      | number n => exact .int (hleaves.integer n)
      | word t => exact .text (h t hid')

theorem Facet.fits_dates :
    ∀ c ∈ [availability, discontinuation], c.toValue.Fits leaves 8 := by
  have hfield (f : Field) := hleaves.word f.label f.isScalar_label
  have hrange (f : Field) (side : String) : (Clause.single "range"
      (Clause.single f.label (Clause.single side (.text thisHour)))).Fits leaves 4 :=
    .single (hleaves.label _) (.single (hfield f)
      (.single (hleaves.label _) (.text (hleaves.label _))))
  have hexists : (Clause.not (.present .discontinueOn)).toValue.Fits leaves 5 :=
    .single (hleaves.label _) (.single (hleaves.label _)
      (.single (hleaves.label _) (.single (hleaves.label _) (.text (hfield _)))))
  have hends : ∀ v ∈ Clause.toValues [.not (.present .discontinueOn), .notBeforeNow .discontinueOn],
      v.Fits leaves 5 :=
    List.forall_mem_cons.mpr ⟨hexists, List.forall_mem_singleton.mpr
      ((hrange .discontinueOn "gte").mono (by decide))⟩
  refine List.forall_mem_cons.mpr ⟨(hrange .availableOn "lte").mono (by decide), ?_⟩
  refine List.forall_mem_singleton.mpr ?_
  exact .single (hleaves.label _) (.single (hleaves.label _) (.list hends))

theorem Facet.fits_ofParams {p : Params} (h : p.Admitted leaves) :
    (ofParams p).toValue.Fits leaves 11 := by
  apply Clause.fits_all hleaves
  intro c hc
  rcases List.mem_append.mp hc with hc | hc
  · rcases List.mem_append.mp hc with hc | hc
    · exact (fits_propertyClauses hleaves h.properties c hc).mono (by decide)
    · exact (fits_taxonClause hleaves h.taxonIds c hc).mono (by decide)
  · exact fits_dates hleaves c hc

theorem PriceRange.fits {range : PriceRange}
    (h : leaves.number range.low ∧ leaves.number range.high) : range.toValue.Fits leaves 4 := by
  have hends : (Value.record [("gte", .float range.low), ("lte", .float range.high)]).Fits
      leaves 2 := by
    have hnames : [Text.ofString "gte", Text.ofString "lte"].Nodup := by decide
    refine .record hleaves hnames (List.forall_mem_cons.mpr ⟨.float h.1, ?_⟩)
    exact List.forall_mem_singleton.mpr (.float h.2)
  exact .single (hleaves.label _) (.single (hleaves.word _ (Field.isScalar_label _)) hends)

theorem SortKey.fits (key : SortKey) : key.toValue.Fits leaves 3 := by
  cases key with
  | score => exact (Value.Fits.text (hleaves.label _)).mono (by decide)
  | field f direction =>
      have hlabel : leaves.word direction.label := by
        cases direction <;> exact hleaves.label _
      have horder : (Value.record [("order", .text direction.label)]).Fits leaves 2 :=
        .record hleaves (List.nodup_singleton _) (List.forall_mem_singleton.mpr (.text hlabel))
      exact .single (hleaves.word _ f.isScalar_label) horder

theorem aggregations_fits : aggregations.toValue.Fits leaves 5 := by
  have hfield (f : Field) : (Value.text f.label).Fits leaves 1 :=
    .text (hleaves.word _ f.isScalar_label)
  have hsize : (Value.int maxBuckets).Fits leaves 1 := .int (hleaves.integer _)
  have horder : (Value.record [("_count", "asc")]).Fits leaves 2 :=
    .record hleaves (List.nodup_singleton _)
      (List.forall_mem_singleton.mpr (.text (hleaves.label "asc")))
  have hone {name : String} {v : Value} {depth : Nat} (h : v.Fits leaves depth) :
      (Value.record [(name, v)]).Fits leaves (depth + 1) :=
    .record hleaves (List.nodup_singleton _) (List.forall_mem_singleton.mpr h)
  have hproperties : (Value.record [("field", .text Field.properties.label),
      ("order", .record [("_count", "asc")]), ("size", .int maxBuckets)]).Fits leaves 3 := by
    have hnames : [Text.ofString "field", Text.ofString "order", Text.ofString "size"].Nodup := by
      decide
    refine .record hleaves hnames ?_
    simp only [List.forall_mem_cons]
    exact ⟨(hfield _).mono (by decide), horder, hsize.mono (by decide), nofun⟩
  have htaxons : (Value.record [("field", .text Field.taxonIds.label),
      ("size", .int maxBuckets)]).Fits leaves 2 := by
    have hnames : [Text.ofString "field", Text.ofString "size"].Nodup := by decide
    refine .record hleaves hnames ?_
    simp only [List.forall_mem_cons]
    exact ⟨hfield _, hsize, nofun⟩
  have hnames : (aggregations.map Prod.fst).Nodup := by
    show [Text.ofString "price", Text.ofString "properties", Text.ofString "taxon_ids"].Nodup
    decide
  refine .dict hnames ?_ ?_
  · simp only [aggregations, List.forall_mem_cons]
    exact ⟨hleaves.label _, hleaves.label _, hleaves.label _, nofun⟩
  · simp only [aggregations, List.forall_mem_cons]
    exact ⟨(hone (hone (hfield .price))).mono (by decide), (hone hproperties).mono (by decide),
      (hone htaxons).mono (by decide), nofun⟩

/-- **A compiled document is a JSON value of small depth**, with whatever leaves its parameters
bring into it. -/
theorem Service.compile_fits {p : Params} (h : p.Admitted leaves) :
    (compile p).Fits leaves 14 := by
  have hbool : (Value.record [("must", (TextClause.ofQuery p.query).toValue),
      ("filter", (Facet.ofParams p).toValue)]).Fits leaves 12 := by
    have hnames : [Text.ofString "must", Text.ofString "filter"].Nodup := by decide
    refine .record hleaves hnames ?_
    simp only [List.forall_mem_cons]
    exact ⟨(TextClause.fits hleaves h.query).mono (by decide), Facet.fits_ofParams hleaves h,
      nofun⟩
  have hquery : (Clause.single "bool" (Value.record
      [("must", (TextClause.ofQuery p.query).toValue),
        ("filter", (Facet.ofParams p).toValue)])).Fits leaves 13 :=
    .single (hleaves.label _) hbool
  have hsort : (Value.list (((SortKey.ofSorting p.sorting).map SortKey.toEntry).map
      SortEntry.toValue)).Fits leaves 13 := by
    have hkeys : (Value.list (((SortKey.ofSorting p.sorting).map SortKey.toEntry).map
        SortEntry.toValue)).Fits leaves 4 := by
      refine .list ?_
      rw [List.forall_mem_map, List.forall_mem_map]
      exact fun key _ => key.fits hleaves
    exact hkeys.mono (by decide)
  have hscore : (Value.float minScore).Fits leaves 13 :=
    (Value.Fits.float hleaves.number).mono (by decide)
  have hoffset : (Value.int p.offset).Fits leaves 13 :=
    (Value.Fits.int (hleaves.integer _)).mono (by decide)
  have haggregations : aggregations.toValue.Fits leaves 13 :=
    (aggregations_fits hleaves).mono (by decide)
  -- the price filter is there or not, and the rest of the document stays as it is
  show (Value.record (_ ++ (match (PriceRange.ofPrices p.priceMin p.priceMax).map
      PriceRange.filter with
    | some filter => [("filter", filter.toValue)]
    | none => []) ++ _)).Fits leaves 14
  cases hprices : PriceRange.ofPrices p.priceMin p.priceMax with
  | none =>
      have hnames : [Text.ofString "min_score", Text.ofString "query", Text.ofString "sort",
          Text.ofString "from", Text.ofString "aggregations"].Nodup := by decide
      refine .record hleaves hnames ?_
      simp only [List.forall_mem_append, List.forall_mem_cons, Option.map_none]
      exact ⟨⟨⟨hscore, hquery, nofun⟩, nofun⟩, hsort, hoffset, haggregations, nofun⟩
  | some range =>
      have hnames : [Text.ofString "min_score", Text.ofString "query", Text.ofString "filter",
          Text.ofString "sort", Text.ofString "from", Text.ofString "aggregations"].Nodup := by
        decide
      have hrange : (Record.toValue range.filter).Fits leaves 13 :=
        (PriceRange.fits hleaves (h.range range hprices)).mono (by decide)
      refine .record hleaves hnames ?_
      simp only [List.forall_mem_append, List.forall_mem_cons, Option.map_some]
      exact ⟨⟨⟨hscore, hquery, nofun⟩, hrange, nofun⟩, hsort, hoffset, haggregations, nofun⟩

end Parts

/-- A compiled document is an object whose members are shallow enough to be answered: it is never
deeper than fourteen values, whatever is asked. -/
theorem Service.compile_record (hleaves : leaves.Usual) {p : Params} (h : p.Admitted leaves) :
    ∃ document : Record, compile p = .dict document.entries ∧
      (Value.dict document.entries).IsJson leaves ∧
      ∀ member ∈ document, Json.nesting member.2 ≤ Json.maxNesting := by
  have hfits := compile_fits hleaves h
  obtain ⟨document, hdocument⟩ : ∃ document : Record, compile p = .dict document.entries :=
    ⟨_, Value.record_eq _⟩
  rw [hdocument] at hfits
  refine ⟨document, hdocument, hfits.json, ?_⟩
  intro member hmember
  have hlt := hfits.nesting_member_lt member hmember
  exact Nat.le_trans (Nat.le_of_lt hlt) (by decide)

/-! ## Parameters without surrogates -/

/-- The texts that end up in a document hold no surrogates. -/
structure Params.Spelled (p : Params) : Prop where
  query : ∀ t, p.query = some t → t.isScalar = true
  properties : ∀ entry ∈ p.properties,
    entry.1.isScalar = true ∧ ∀ value ∈ entry.2, value.isScalar = true
  taxonIds : ∀ t, TaxonId.word t ∈ p.taxonIds → t.isScalar = true

theorem isScalar_escapeQuotes {t : Text} (h : t.isScalar = true) :
    (escapeQuotes t).isScalar = true := by
  apply Text.isScalar_flatMap
  intro c hc
  have hscalar := Text.isScalar_iff.mp h c hc
  split_ifs <;> simp [hscalar, CodePoint.isSurrogate_ofChar]

/-- Escaping a text and joining a property token bring no surrogate in. -/
theorem Params.Spelled.admitted {p : Params} (h : p.Spelled) (hleaves : leaves.Usual)
    (hrange : ∀ range, PriceRange.ofPrices p.priceMin p.priceMax = some range →
      leaves.number range.low ∧ leaves.number range.high) : p.Admitted leaves where
  query t ht := hleaves.word _ (isScalar_escapeQuotes (h.query t ht))
  properties := by
    intro entry hentry value hvalue
    obtain ⟨hname, hvalues⟩ := h.properties entry hentry
    refine hleaves.word _ ?_
    simp [propertyToken, tokenSeparator, hname, hvalues value hvalue]
  taxonIds t ht := hleaves.word t (h.taxonIds t ht)
  range := hrange

theorem JsonLeaves.scalar_usual : JsonLeaves.scalar.Usual :=
  ⟨fun _ => trivial, trivial, fun _ => id⟩

end FacetSearch
