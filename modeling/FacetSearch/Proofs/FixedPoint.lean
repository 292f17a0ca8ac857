/-
# FacetSearch.Proofs.FixedPoint — accepted parameters are read as they are.

Parameters that were read can be written out as a dictionary and handed in again.  Both ways in then
lead back to the same parameters: every field is written in a form that its reading leaves alone,
and dropping repeats a second time finds none.  Only the offset divides the two ways, because a
request body takes no negative one.
-/
import FacetSearch.Proofs.NormalForm

namespace FacetSearch

open Validation

/-! ## Fields that were written -/

theorem Sorting.ofLabel_label (mode : Sorting) : Sorting.ofLabel mode.label = mode := by
  cases mode <;> decide

/-- The texts of a property as the values of a request body. -/
def PropertyValue.ofTexts (values : List Text) : List PropertyValue := values.map PropertyValue.text

/-- Texts without repeats are their own texts. -/
theorem PropertyValue.words_ofTexts {values : List Text} (h : values.Nodup) :
    words (ofTexts values) = values := by
  have htexts : (ofTexts values).map (fun x => x.toValue.display) = values := by
    rw [ofTexts, List.map_map]
    exact List.map_id values
  rw [words, htexts, distinct_eq_self h]

namespace Params

variable {p : Params}

/-- The properties as the properties of a request body. -/
def writtenProperties (p : Params) : List (Text × List PropertyValue) :=
  mapNamed PropertyValue.ofTexts p.properties

namespace SaidOnce

theorem collectNamed_written (h : p.SaidOnce) :
    collectNamed p.writtenProperties = p.writtenProperties := by
  refine collectNamed_eq_self ?_
  have hnames : p.writtenProperties.map Prod.fst = p.properties.map Prod.fst := by
    rw [writtenProperties, mapNamed, List.map_map]
    rfl
  rw [hnames]
  exact h.names

theorem words_written (h : p.SaidOnce) :
    mapNamed PropertyValue.words (collectNamed p.writtenProperties) = p.properties := by
  rw [h.collectNamed_written, writtenProperties, mapNamed, mapNamed, List.map_map]
  refine (List.map_congr_left ?_).trans (List.map_id _)
  rintro ⟨name, values⟩ hmem
  exact Prod.ext rfl (PropertyValue.words_ofTexts (h.values (name, values) hmem))

theorem readProperties_written (h : p.SaidOnce) :
    readProperties (propertiesValue p.properties) = .ok p.properties := by
  refine (readProperties_eq ?_).trans (congrArg Except.ok h.words_written)
  rw [writtenProperties, mapNamed, List.forall₂_map_left_iff, List.forall₂_map_right_iff]
  refine List.forall₂_same.mpr fun property _ => ⟨key_text property.1, _, rfl, ?_, ?_⟩
  · exact Value.haveTexts_iff.mpr (List.forall_mem_map.mpr fun _ _ => rfl)
  · simp [PropertyValue.ofTexts, PropertyValue.toValue]

theorem readTaxonIds_written (h : p.SaidOnce) :
    readTaxonIds (taxonIdsValue p.taxonIds) = .ok p.taxonIds := by
  rw [readTaxonIds_dump, distinct_eq_self h.taxonIds]

/-- A request body takes the properties as they are written. -/
theorem dictOf_written (h : p.SaidOnce) :
    dictOf (listOf PropertyValue.read) (propertiesValue p.properties) =
      .ok p.writtenProperties := by
  rw [← h.collectNamed_written]
  refine dictOf_eq_ok_iff.mpr ⟨_, p.writtenProperties, rfl, rfl, ?_⟩
  rw [writtenProperties, mapNamed, List.forall₂_map_left_iff, List.forall₂_map_right_iff]
  refine List.forall₂_same.mpr fun property _ => ⟨key_text property.1, ?_⟩
  refine listOf_eq_ok_iff.mpr ⟨_, rfl, ?_⟩
  -- a text is read as itself
  simp [PropertyValue.ofTexts, List.forall₂_map_left_iff, List.forall₂_map_right_iff,
    List.forall₂_same, PropertyValue.read]

end SaidOnce

/-! ## Both ways in -/

/-- The request body that asks for what the parameters say. -/
def asRequest (p : Params) : Request where
  offset := p.offset.toNat
  query := p.query
  priceMin := p.priceMin
  priceMax := p.priceMax
  properties := p.writtenProperties
  taxonIds := p.taxonIds
  browseMode := p.browseMode
  sorting := some p.sorting.label

/-- Texts have texts. -/
theorem asRequest_hasTexts (p : Params) : p.asRequest.HasTexts := by
  intro property hproperty value hvalue
  obtain ⟨property, -, rfl⟩ := List.mem_map.mp hproperty
  obtain ⟨t, -, rfl⟩ := List.mem_map.mp hvalue
  rfl

/-- The two names of the offset. -/
def offsetNames : List String := ["from", "from_"]

/-- The parameters written out, the offset left aside. -/
def otherEntries (p : Params) : Entries :=
  [(.text "query", textValue p.query), (.text "price_min", priceValue p.priceMin),
    (.text "price_max", priceValue p.priceMax),
    (.text "properties", propertiesValue p.properties),
    (.text "taxon_ids", taxonIdsValue p.taxonIds), (.text "browse_mode", .bool p.browseMode),
    (.text "sorting", .sorting p.sorting)]

/-- The parameters written out, the offset under the given name. -/
def dumpEntries (offsetName : String) (p : Params) : Entries :=
  (.text (Text.ofString offsetName), .int p.offset) :: otherEntries p

theorem dump_eq (offsetName : String) (p : Params) :
    p.dump offsetName = .dict (dumpEntries offsetName p) := rfl

section Written

variable {offsetName : String} (hname : offsetName ∈ offsetNames)
include hname

/-- The offset is found under either of its names. -/
theorem fieldEither_dump {α : Type} {read : Value → Checked α} {a : α}
    (h : read (.int p.offset) = .ok a) (absent : Checked α) :
    fieldEither (dumpEntries offsetName p) "from" "from_" read absent = .ok a := by
  rcases List.mem_pair.mp hname with rfl | rfl
  · exact field_present rfl h _
  · rw [fieldEither, field_absent rfl]
    exact field_present rfl h _

/-- Any other field is found under its own name. -/
theorem field_dump {α : Type} {name : Text} (hother : name ∉ offsetNames.map Text.ofString)
    {v : Value} (hv : Entries.get? (otherEntries p) name = some v) {read : Value → Checked α}
    {a : α} (h : read v = .ok a) (absent : Checked α) :
    field (dumpEntries offsetName p) name read absent = .ok a := by
  refine field_present ?_ h absent
  have hne : Text.ofString offsetName ≠ name := by
    rintro rfl
    exact hother (List.mem_map_of_mem hname)
  rw [← hv, dumpEntries, Entries.get?, List.find?_cons_of_neg, ← Entries.get?]
  simpa [Value.text?] using hne

end Written

/-- Written parameters are read as they are. -/
theorem SaidOnce.read_dump (h : p.SaidOnce) {offsetName : String}
    (hname : offsetName ∈ offsetNames) : read (p.dump offsetName) = .ok p := by
  rw [dump_eq]
  refine Accepted.read ⟨?_, ?_, ?_, ?_, ?_, ?_, ?_, ?_⟩
  · refine fieldEither_dump hname ?_ _
    rfl
  · exact field_dump hname (by decide) rfl (nullable_textValue p.query) _
  · exact field_dump hname (by decide) rfl (nullable_price p.priceMin) _
  · exact field_dump hname (by decide) rfl (nullable_price p.priceMax) _
  · exact field_dump hname (by decide) rfl h.readProperties_written _
  · exact field_dump hname (by decide) rfl h.readTaxonIds_written _
  · refine field_dump hname (by decide) (v := .bool p.browseMode) rfl ?_ _
    rfl
  · refine field_dump hname (by decide) (v := .sorting p.sorting) rfl ?_ _
    rfl

/-- Written parameters are a request body, unless their offset is negative. -/
theorem SaidOnce.readRequest_dump (h : p.SaidOnce) {offsetName : String}
    (hname : offsetName ∈ offsetNames) (hoffset : 0 ≤ p.offset) :
    Request.read (p.dump offsetName) = .ok p.asRequest := by
  have hread : Request.readOffset (.int p.offset) = .ok p.asRequest.offset := by
    have hnonneg : ¬ p.offset < 0 := Int.not_lt.mpr hoffset
    simp [Request.readOffset, scalar, int?, hnonneg, asRequest]
  have hbrowse : scalar bool? (.bool p.browseMode) = .ok p.browseMode := rfl
  have hsorting : nullable (scalar text?) (.sorting p.sorting) = .ok (some p.sorting.label) := by
    cases p.sorting <;> rfl
  rw [dump_eq]
  refine Request.Accepted.read ⟨?_, ?_, ?_, ?_, ?_, ?_, ?_, ?_⟩
  · exact fieldEither_dump hname hread _
  · exact field_dump hname (by decide) rfl (nullable_textValue p.query) _
  · exact field_dump hname (by decide) rfl (nullable_price p.priceMin) _
  · exact field_dump hname (by decide) rfl (nullable_price p.priceMax) _
  · exact field_dump hname (by decide) rfl h.dictOf_written _
  · exact field_dump hname (by decide) rfl (TaxonId.listOf_taxonIdsValue p.taxonIds) _
  · exact field_dump hname (by decide) rfl hbrowse _
  · exact field_dump hname (by decide) rfl hsorting _

/-- The request body stands for the parameters it was written of. -/
theorem SaidOnce.asParams_asRequest (h : p.SaidOnce) (hoffset : 0 ≤ p.offset) :
    p.asRequest.asParams = p := by
  have hoffset' : ((p.offset.toNat : Nat) : Int) = p.offset := Int.toNat_of_nonneg hoffset
  have hproperties : mapNamed PropertyValue.words (collectNamed p.writtenProperties) =
    p.properties := h.words_written
  have htaxonIds : distinct p.taxonIds = p.taxonIds := distinct_eq_self h.taxonIds
  have hsorting : Sorting.ofLabel p.sorting.label = p.sorting := Sorting.ofLabel_label p.sorting
  simp [asRequest, Request.asParams, hoffset', hproperties, htaxonIds, hsorting]

end Params

/-- **Accepted parameters are a fixed point of both ways in.**  Written out with the offset under
either of its names they are read as the same parameters, and as a request body that stands for the
same parameters exactly if the offset is not negative. -/
theorem accepted_params_fixed (data : Value) (p : Params) (h : Params.read data = .ok p) :
    ∀ offsetName ∈ Params.offsetNames,
      Params.read (p.dump offsetName) = .ok p ∧
        (0 ≤ p.offset ↔
          ∃ r, Request.read (p.dump offsetName) = .ok r ∧ r.toParams = .ok p) := by
  intro offsetName hname
  obtain ⟨entries, rfl, haccepted⟩ := Params.accepted h
  have honce := haccepted.saidOnce
  refine ⟨honce.read_dump hname, ?_, ?_⟩
  · intro hoffset
    refine ⟨p.asRequest, honce.readRequest_dump hname hoffset, ?_⟩
    rw [Request.toParams_eq p.asRequest_hasTexts, honce.asParams_asRequest hoffset]
  · rintro ⟨r, -, hparams⟩
    -- the offset of a request body is a natural number
    obtain ⟨-, rfl⟩ := Request.toParams_eq_ok_iff.mp hparams
    exact Int.natCast_nonneg r.offset

/-- Data whose fields are all of other types than those of the parameters. -/
def looseData : Value :=
  .record [("from", .text "007"), ("price_min", .text "-0.50"), ("price_max", .text "1E+3"),
    ("properties", .dict [(.text "size", .tuple [.bool true, .float (.ofInt 1), .bool true])]),
    ("taxon_ids", .list [.text "5", .bool true, .int 5, .int 1]), ("browse_mode", .text "yes"),
    ("sorting", .text "price_desc")]

/-- The parameters that `looseData` is read as. -/
def looseParams : Params where
  offset := 7
  query := none
  priceMin := some ⟨true, 50, -2⟩
  priceMax := some ⟨false, 1, 3⟩
  properties := [("size", ["True", "1.0"])]
  taxonIds := [.word "5", .number 1, .number 5]
  browseMode := true
  sorting := .priceDesc

theorem accepted_params_fixed_loose :
    Params.read looseData = .ok looseParams ∧
      ∀ offsetName ∈ Params.offsetNames,
        Params.read (looseParams.dump offsetName) = .ok looseParams ∧
          ∃ r, Request.read (looseParams.dump offsetName) = .ok r ∧
            r.toParams = .ok looseParams := by
  have hread : Params.read looseData = .ok looseParams :=
    Checked.eq_ok_of_toOption (by decide +kernel)
  refine ⟨hread, fun offsetName hname => ?_⟩
  obtain ⟨hdirect, hbody⟩ := accepted_params_fixed looseData looseParams hread offsetName hname
  exact ⟨hdirect, hbody.mp (by decide)⟩

end FacetSearch
