/-
# FacetSearch.Proofs.NormalForm — what accepted parameters look like.

Whatever is accepted, the lists in the parameters have no repeats and the properties have distinct
names.  Nothing is lost on the way but repeats: a property has the texts of the values that stood
under its name last, and the taxon ids are those that were read, each in the order in which it first
occurs.  The clauses that list terms inherit this: none is empty, none lists a term twice, and there
is one for each property with a value and at most one for the taxons.
-/
import FacetSearch.Proofs.EntryPaths
import FacetSearch.Proofs.FirstOccurrences
import FacetSearch.Proofs.TermsClauses

namespace FacetSearch

open Validation

/-! ## What is read of data -/

/-- What data offers for the properties: each key as a name with the members of what stands under
it, or nothing. -/
def Params.OffersProperties (entries : Entries) (offered : List (Text × List Value)) : Prop :=
  match Entries.get? entries "properties" with
  | some (.dict given) =>
    List.Forall₂ (fun entry pair => text? entry.1 = .ok pair.1 ∧ entry.2.members? = some pair.2)
      given offered
  | some .null => offered = []
  | some _ => False
  | none => offered = []

/-- What data offers for the taxon ids: the members of a list, or nothing. -/
def Params.OffersTaxonIds (entries : Entries) (offered : List Value) : Prop :=
  match Entries.get? entries "taxon_ids" with
  | some .null => offered = []
  | some v => v.members? = some offered
  | none => offered = []

/-- A value is read as a taxon id; integers and texts are kept as they are. -/
structure TaxonId.ReadAs (v : Value) (id : TaxonId) : Prop where
  read : TaxonId.read v = .ok id
  number : ∀ n, v = .int n → id = .number n
  word : ∀ t, v = .text t → id = .word t

theorem TaxonId.readAs_of_read {v : Value} {id : TaxonId} (h : TaxonId.read v = .ok id) :
    TaxonId.ReadAs v id := by
  refine ⟨h, ?_, ?_⟩
  · rintro n rfl
    exact (Except.ok.inj h).symm
  · rintro t rfl
    exact (Except.ok.inj h).symm

theorem exists_map_of_forall₂ {α β γ : Type} {R : α → β → Prop} {f : β → γ} {as : List α}
    {cs : List γ} (h : List.Forall₂ (fun a c => ∃ b, R a b ∧ f b = c) as cs) :
    ∃ bs, List.Forall₂ R as bs ∧ bs.map f = cs := by
  induction h with
  | nil => exact ⟨[], .nil, rfl⟩
  | cons hhead _ ih =>
      obtain ⟨b, hb, rfl⟩ := hhead
      obtain ⟨bs, hbs, rfl⟩ := ih
      exact ⟨b :: bs, .cons hb hbs, rfl⟩

theorem key_eq_ok_iff {k : Value} {name : Text} : key k = .ok name ↔ text? k = .ok name := by
  rw [key, Checked.under_eq_ok_iff, Checked.under_eq_ok_iff, scalar_eq_ok_iff]

/-- What is no list has no texts of its members. -/
theorem members_of_listOf_displayMembers {v : Value} {texts : List Text}
    (h : listOf (scalar text?) (Params.displayMembers v) = .ok texts) :
    ∃ xs, v.members? = some xs ∧ xs.map Value.display = texts := by
  cases hv : v.members? with
  | some xs => exact ⟨xs, rfl, Except.ok.inj ((listOf_displayMembers hv).symm.trans h)⟩
  | none =>
      rw [Params.displayMembers, hv, listOf, hv] at h
      exact absurd h (by simp [Checked.fail])

/-- The texts of the values under a name, repeats dropped. -/
def Params.wordsOf (xs : List Value) : List Text := distinct (xs.map Value.display)

theorem Params.readProperties_eq_ok {v : Value} {properties : List (Text × List Text)}
    (h : readProperties v = .ok properties) :
    (v = .null ∧ properties = []) ∨ ∃ given offered, v = .dict given ∧
      List.Forall₂ (fun entry pair => text? entry.1 = .ok pair.1 ∧ entry.2.members? = some pair.2)
        given offered ∧
      properties = mapNamed wordsOf (collectNamed offered) := by
  obtain ⟨displayed, hdisplay, hdict⟩ := exists_display_of_readProperties h
  obtain ⟨named, hnamed, rfl⟩ := Checked.map_eq_ok_iff.mp hdict
  obtain ⟨entries, pairs, rfl, rfl, hread⟩ := dictOf_eq_ok_iff.mp hnamed
  cases v with
  | null =>
      obtain rfl : entries = [] := (Value.dict.inj (Except.ok.inj hdisplay)).symm
      rw [List.forall₂_nil_left_iff] at hread
      exact Or.inl ⟨rfl, by rw [hread]; rfl⟩
  | dict given =>
      have hgiven := displayProperties_eq (propertiesHaveTexts_of_display hdisplay)
      obtain rfl := Value.dict.inj (Except.ok.inj (hgiven.symm.trans hdisplay))
      rw [List.forall₂_map_left_iff] at hread
      refine Or.inr ⟨given, ?_⟩
      let displayed (offer : Text × List Value) : Text × List Text :=
        (offer.1, offer.2.map Value.display)
      have hoffer : List.Forall₂ (fun entry pair => ∃ offer : Text × List Value,
          (text? entry.1 = .ok offer.1 ∧ entry.2.members? = some offer.2) ∧
            displayed offer = pair) given pairs := by
        refine hread.imp fun entry pair hpair => ?_
        obtain ⟨hkey, hvalues⟩ := hpair
        obtain ⟨xs, hxs, htexts⟩ := members_of_listOf_displayMembers hvalues
        exact ⟨(pair.1, xs), ⟨key_eq_ok_iff.mp hkey, hxs⟩, Prod.ext rfl htexts⟩
      obtain ⟨offered, hoffered, rfl⟩ := exists_map_of_forall₂ hoffer
      refine ⟨offered, rfl, hoffered, ?_⟩
      -- taking the texts does not look at the names, so it can be done after the names are set
      have htexts : collectNamed (offered.map displayed) =
          mapNamed (List.map Value.display) (collectNamed offered) :=
        collectNamed_mapNamed (List.map Value.display) offered
      simp [htexts, mapNamed, wordsOf]
  | _ => exact absurd hdisplay (by simp [displayProperties])

theorem mem_mapNamed {α β : Type} {f : α → β} {entries : List (Text × α)} {name : Text} {b : β} :
    (name, b) ∈ mapNamed f entries ↔ ∃ a, (name, a) ∈ entries ∧ f a = b := by
  simp [mapNamed]

/-! ## The normal form -/

/-- The properties are those that data offers: each name in the place of its first occurrence, with
the texts of what stands under it last. -/
structure Params.KeepsProperties (offered : List (Text × List Value)) (p : Params) : Prop where
  names : FirstOccurrences (offered.map Prod.fst) (p.properties.map Prod.fst)
  values : ∀ name values, (name, values) ∈ p.properties →
    ∃ xs, LastUnder offered name xs ∧ FirstOccurrences (xs.map Value.display) values

/-- The taxon ids are those that data offers, repeats judged by what was read. -/
def Params.KeepsTaxonIds (offered : List Value) (p : Params) : Prop :=
  ∃ ids, List.Forall₂ TaxonId.ReadAs offered ids ∧ FirstOccurrences ids p.taxonIds

theorem Params.keepsProperties {offered : List (Text × List Value)} {p : Params}
    (h : p.properties = mapNamed wordsOf (collectNamed offered)) : KeepsProperties offered p := by
  refine ⟨?_, ?_⟩
  · have hnames : p.properties.map Prod.fst = distinct (offered.map Prod.fst) := by
      rw [h, mapNamed, List.map_map, ← collectNamed_names]
      rfl
    rw [hnames]
    exact distinct_firstOccurrences _
  · intro name values hmem
    rw [h, mem_mapNamed] at hmem
    obtain ⟨xs, hxs, rfl⟩ := hmem
    exact ⟨xs, mem_collectNamed_iff.mp hxs, distinct_firstOccurrences _⟩

theorem Params.Accepted.keepsProperties {entries : Entries} {p : Params}
    (h : Params.Accepted entries p) :
    ∃ offered, OffersProperties entries offered ∧ KeepsProperties offered p := by
  have hread := h.properties
  unfold field at hread
  unfold OffersProperties
  cases hv : Entries.get? entries "properties" with
  | none =>
      rw [hv] at hread
      exact ⟨[], rfl, Params.keepsProperties (Except.ok.inj hread).symm⟩
  | some v =>
      rw [hv] at hread
      rcases readProperties_eq_ok (Checked.under_eq_ok_iff.mp hread) with
        ⟨rfl, hnil⟩ | ⟨given, offered, rfl, hoffered, heq⟩
      · exact ⟨[], rfl, Params.keepsProperties hnil⟩
      · exact ⟨offered, hoffered, Params.keepsProperties heq⟩

theorem Params.readTaxonIds_eq_ok {v : Value} {ids : List TaxonId}
    (h : readTaxonIds v = .ok ids) :
    ∃ xs as, (nonNull v (.list [])).members? = some xs ∧ List.Forall₂ TaxonId.ReadAs xs as ∧
      FirstOccurrences as ids := by
  obtain ⟨as, hlist, rfl⟩ := Checked.map_eq_ok_iff.mp h
  obtain ⟨xs, hxs, hread⟩ := listOf_eq_ok_iff.mp hlist
  exact ⟨xs, as, hxs, hread.imp fun _ _ => TaxonId.readAs_of_read, distinct_firstOccurrences as⟩

theorem Params.Accepted.keepsTaxonIds {entries : Entries} {p : Params}
    (h : Params.Accepted entries p) :
    ∃ offered, OffersTaxonIds entries offered ∧ KeepsTaxonIds offered p := by
  have hread := h.taxonIds
  unfold field at hread
  unfold OffersTaxonIds
  cases hv : Entries.get? entries "taxon_ids" with
  | none =>
      rw [hv] at hread
      refine ⟨[], rfl, [], .nil, ?_⟩
      rw [← Except.ok.inj hread]
      exact distinct_firstOccurrences []
  | some v =>
      rw [hv] at hread
      obtain ⟨xs, as, hxs, hforall, hfirst⟩ :=
        readTaxonIds_eq_ok (Checked.under_eq_ok_iff.mp hread)
      refine ⟨xs, ?_, as, hforall, hfirst⟩
      cases v with
      | null => exact (Option.some.inj hxs).symm
      | _ => exact hxs

/-- No name, no value of a property and no taxon id is there twice. -/
structure Params.SaidOnce (p : Params) : Prop where
  names : (p.properties.map Prod.fst).Nodup
  values : ∀ property ∈ p.properties, property.2.Nodup
  taxonIds : p.taxonIds.Nodup

theorem Params.Accepted.saidOnce {entries : Entries} {p : Params}
    (h : Params.Accepted entries p) : p.SaidOnce := by
  obtain ⟨offered, -, hkept⟩ := h.keepsProperties
  obtain ⟨offeredIds, -, ids, -, hids⟩ := h.keepsTaxonIds
  refine ⟨hkept.names.nodup, ?_, hids.nodup⟩
  rintro ⟨name, values⟩ hmem
  obtain ⟨xs, -, hvalues⟩ := hkept.values name values hmem
  exact hvalues.nodup

/-- Parameters keep of data what it offers, and the terms clauses of their document are made of it
one by one. -/
structure Params.NormalForm (data : Value) (p : Params) : Prop where
  kept : ∃ entries, data = .dict entries ∧
    (∃ offered, OffersProperties entries offered ∧ KeepsProperties offered p) ∧
    ∃ offered, OffersTaxonIds entries offered ∧ KeepsTaxonIds offered p
  clauses : (Service.compile p).termsClauses =
    ((p.properties.filter fun (_, values) => values ≠ []).map
      fun (name, values) => Service.propertyTerms name values) ++ Service.taxonTerms p.taxonIds
  listOnce : ∀ clause ∈ (Service.compile p).termsClauses, ListsOnce clause

/-- **Accepted parameters are in normal form.**  Of what data offers for the properties and the
taxon ids nothing is lost but repeats, and what is kept stands in the order of its first occurrence.
The terms clauses of the document are one for each property with values and at most one for the
taxons; none is empty, and none lists a term twice. -/
theorem accepted_params_normal (data : Value) (p : Params) (h : Params.read data = .ok p) :
    Params.NormalForm data p := by
  obtain ⟨entries, rfl, haccepted⟩ := Params.accepted h
  have honce := haccepted.saidOnce
  exact ⟨⟨entries, rfl, haccepted.keepsProperties, haccepted.keepsTaxonIds⟩,
    Service.termsClauses_compile p, Service.termsClauses_listOnce honce.values honce.taxonIds⟩

/-- Data that names the property `size` twice, once as bytes, and repeats values and taxon ids in
several forms. -/
def overlappingData : Value :=
  .record [("properties", .dict [
      (.text "size", .list [.text "lost"]),
      (.text "colour", .list []),
      (.bytes [0x73, 0x69, 0x7A, 0x65],
        .tuple [.int 1, .bool true, .text "1", .text "True", .null])]),
    ("taxon_ids", .list [.text "1", .bool true, .int 1, .text "1", .float (.ofInt 1)])]

/-- The parameters that `overlappingData` is read as. -/
def overlappingParams : Params where
  offset := 0
  query := none
  priceMin := none
  priceMax := none
  properties := [("size", ["1", "True", "None"]), ("colour", [])]
  taxonIds := [.word "1", .number 1]
  browseMode := false
  sorting := .default

theorem accepted_params_normal_overlapping :
    Params.read overlappingData = .ok overlappingParams ∧
      Params.NormalForm overlappingData overlappingParams ∧
      (Service.compile overlappingParams).termsClauses =
        ([("properties", ["size||1", "size||True", "size||None"]),
          ("taxon_ids", [.text "1", .int 1])] : List (Text × List Value)) := by
  have hread : Params.read overlappingData = .ok overlappingParams :=
    Checked.eq_ok_of_toOption (by decide +kernel)
  have hnormal := accepted_params_normal overlappingData overlappingParams hread
  exact ⟨hread, hnormal, hnormal.clauses.trans rfl⟩

end FacetSearch
