/-
# FacetSearch.Proofs.EntryPaths — the two ways in lead to the same parameters.

Parameters are read from a dictionary directly, or from the dictionary that an accepted request body
hands on.  The body has fields of other types and the second reading takes its values apart again,
so the order of reading, turning into text and dropping repeats differs.  The result does not, but
for one thing: a truth value among the values of a property is a number in a body.  The second
reading refuses a body in which a property value has no text, and nothing else; a body that was
JSON has no such value.
-/
import FacetSearch.Http.Endpoint
import FacetSearch.Proofs.JsonValue

namespace FacetSearch

/-! ## Truth values as integers -/

/-- A truth value as the integer one or zero; any other value stays. -/
def Value.truthAsInteger : Value → Value
  | .bool b => .int (if b then 1 else 0)
  | v => v

/-- The values of one property, truth values among them as integers. -/
def Value.truthsAsIntegers : Value → Value
  | .list xs => .list (xs.map truthAsInteger)
  | v => v

/-- All properties, truth values among their values as integers. -/
def Value.propertyTruthsAsIntegers : Value → Value
  | .dict entries => .dict (entries.map fun (k, v) => (k, v.truthsAsIntegers))
  | v => v

/-- Data with each truth value inside a list of property values replaced by an integer. -/
def Value.withIntegerTruths : Value → Value
  | .dict entries => .dict (entries.map fun (k, v) =>
      (k, if k.text? = some "properties" then v.propertyTruthsAsIntegers else v))
  | v => v

theorem Entries.get?_map_of_ne {name name' : Text} (h : name' ≠ name) (f : Value → Value)
    (entries : Entries) :
    Entries.get? (entries.map fun (k, v) => (k, if k.text? = some name then f v else v)) name' =
      (Entries.get? entries name').map id := by
  induction entries with
  | nil => rfl
  | cons entry rest ih =>
      obtain ⟨k, v⟩ := entry
      by_cases hk : k.text? = some name'
      · simp [Entries.get?, hk, h]
      · simpa [Entries.get?, hk] using ih

theorem Entries.get?_map_self (name : Text) (f : Value → Value) (entries : Entries) :
    Entries.get? (entries.map fun (k, v) => (k, if k.text? = some name then f v else v)) name =
      (Entries.get? entries name).map f := by
  induction entries with
  | nil => rfl
  | cons entry rest ih =>
      obtain ⟨k, v⟩ := entry
      by_cases hk : k.text? = some name
      · simp [Entries.get?, hk]
      · simpa [Entries.get?, hk] using ih

/-! ## What an accepted body becomes -/

open Validation

/-- The texts of the values of one property, repeats dropped. -/
def PropertyValue.words (values : List PropertyValue) : List Text :=
  distinct (values.map fun x => x.toValue.display)

/-- The parameters that a request body stands for. -/
def Request.asParams (r : Request) : Params where
  offset := r.offset
  query := r.query
  priceMin := r.priceMin
  priceMax := r.priceMax
  properties := mapNamed PropertyValue.words (collectNamed r.properties)
  taxonIds := distinct r.taxonIds
  browseMode := r.browseMode
  sorting := (r.sorting.map Sorting.ofLabel).getD .default

/-- The fields of accepted parameters. -/
structure Params.Accepted (entries : Entries) (p : Params) : Prop where
  offset : fieldEither entries "from" "from_" (fun v => scalar int? (nonNull v (.int 0)))
    (.ok 0) = .ok p.offset
  query : field entries "query" (nullable (scalar text?)) (.ok none) = .ok p.query
  priceMin : field entries "price_min" (nullable (scalar decimal?)) (.ok none) = .ok p.priceMin
  priceMax : field entries "price_max" (nullable (scalar decimal?)) (.ok none) = .ok p.priceMax
  properties : field entries "properties" readProperties (.ok []) = .ok p.properties
  taxonIds : field entries "taxon_ids" readTaxonIds (.ok []) = .ok p.taxonIds
  browseMode : field entries "browse_mode" (fun v => scalar bool? (nonNull v (.bool false)))
    (.ok false) = .ok p.browseMode
  sorting : field entries "sorting" (fun v => .ok (readSorting v)) (.ok .default) = .ok p.sorting

/-- Parameters are read exactly field by field. -/
theorem Params.Accepted.read {entries : Entries} {p : Params} (h : Params.Accepted entries p) :
    Params.read (.dict entries) = .ok p := by
  simp only [Params.read, ofEntries, h.offset, h.query, h.priceMin, h.priceMax, h.properties,
    h.taxonIds, h.browseMode, h.sorting, Checked.ap_ok]

theorem Params.accepted {data : Value} {p : Params} (h : Params.read data = .ok p) :
    ∃ entries, data = .dict entries ∧ Params.Accepted entries p := by
  cases data with
  | dict entries =>
      refine ⟨entries, rfl, ?_⟩
      have hread : Params.ofEntries entries = .ok p := h
      simp only [ofEntries, Checked.ap_eq_ok_iff] at hread
      -- eight fields, each joined to what was read before it
      obtain ⟨_, _, ⟨_, _, ⟨_, _, ⟨_, _, ⟨_, _, ⟨_, _, ⟨_, _, ⟨_, _, hmk, offset, rfl⟩, query, rfl⟩,
        priceMin, rfl⟩, priceMax, rfl⟩, properties, rfl⟩, taxonIds, rfl⟩, browseMode, rfl⟩, sorting,
        rfl⟩ := hread
      obtain rfl := Except.ok.inj hmk
      exact ⟨offset, query, priceMin, priceMax, properties, taxonIds, browseMode, sorting⟩
  | _ => exact absurd h (by simp [Params.read, Checked.fail])

/-- The fields of an accepted body. -/
structure Request.Accepted (entries : Entries) (r : Request) : Prop where
  offset : fieldEither entries "from" "from_" readOffset (.ok 0) = .ok r.offset
  query : field entries "query" (nullable (scalar text?)) (.ok none) = .ok r.query
  priceMin : field entries "price_min" (nullable (scalar decimal?)) (.ok none) = .ok r.priceMin
  priceMax : field entries "price_max" (nullable (scalar decimal?)) (.ok none) = .ok r.priceMax
  properties : field entries "properties" (dictOf (listOf PropertyValue.read)) (.ok []) =
    .ok r.properties
  taxonIds : field entries "taxon_ids" (listOf TaxonId.read) (.ok []) = .ok r.taxonIds
  browseMode : field entries "browse_mode" (scalar bool?) (.ok false) = .ok r.browseMode
  sorting : field entries "sorting" (nullable (scalar text?)) (.ok none) = .ok r.sorting

theorem Request.Accepted.read {entries : Entries} {r : Request}
    (h : Request.Accepted entries r) : Request.read (.dict entries) = .ok r := by
  simp only [Request.read, readOr, ofEntries, h.offset, h.query, h.priceMin, h.priceMax,
    h.properties, h.taxonIds, h.browseMode, h.sorting, Checked.ap_ok]

theorem Request.accepted {data : Value} {r : Request} (h : Request.read data = .ok r) :
    ∃ entries, data = .dict entries ∧ Request.Accepted entries r := by
  cases data with
  | dict entries =>
      refine ⟨entries, rfl, ?_⟩
      have hread : Request.ofEntries entries = .ok r := h
      simp only [ofEntries, Checked.ap_eq_ok_iff] at hread
      -- eight fields, each joined to what was read before it
      obtain ⟨_, _, ⟨_, _, ⟨_, _, ⟨_, _, ⟨_, _, ⟨_, _, ⟨_, _, ⟨_, _, hmk, offset, rfl⟩, query, rfl⟩,
        priceMin, rfl⟩, priceMax, rfl⟩, properties, rfl⟩, taxonIds, rfl⟩, browseMode, rfl⟩, sorting,
        rfl⟩ := hread
      obtain rfl := Except.ok.inj hmk
      exact ⟨offset, query, priceMin, priceMax, properties, taxonIds, browseMode, sorting⟩
  | _ => exact absurd h (by simp [Request.read, Request.readOr, Checked.fail])

/-! ## Properties -/

theorem Value.haveTexts_iff {xs : List Value} :
    haveTexts xs = true ↔ ∀ x ∈ xs, x.hasText = true := by
  induction xs with
  | nil => exact iff_of_true rfl (List.forall_mem_nil _)
  | cons x xs ih => rw [haveTexts, Bool.and_eq_true, ih, List.forall_mem_cons]

theorem Value.entriesHaveTexts_iff {entries : Entries} :
    entriesHaveTexts entries = true ↔
      ∀ entry ∈ entries, entry.1.hasText = true ∧ entry.2.hasText = true := by
  induction entries with
  | nil => exact iff_of_true rfl (List.forall_mem_nil _)
  | cons entry entries ih =>
      rw [entriesHaveTexts, Bool.and_eq_true, Bool.and_eq_true, ih, List.forall_mem_cons]

/-- A value that a JSON text stands for has a text, since its integers are short. -/
theorem Value.IsJson.hasText {v : Value} (h : v.IsRead) : v.hasText = true := by
  induction h with
  | int short => exact decide_eq_true short
  | list _ ih => exact haveTexts_iff.mpr ih
  | dict _ _ _ ih =>
      refine entriesHaveTexts_iff.mpr (List.forall_mem_map.mpr fun member hmember => ?_)
      exact ⟨rfl, ih member hmember⟩
  | _ => rfl

theorem Value.IsJson.truthAsInteger {v : Value} (h : v.IsRead) : v.truthAsInteger.IsRead := by
  cases v with
  | bool b =>
      have hshort : ShortInteger (if b then 1 else 0) := by cases b <;> decide
      exact .int hshort
  | _ => exact h

/-- Values are read by their texts, whatever they are. -/
theorem listOf_displayMembers {v : Value} {xs : List Value} (h : v.members? = some xs) :
    listOf (scalar text?) (Params.displayMembers v) = .ok (xs.map Value.display) := by
  rw [Params.displayMembers, h, listOf_eq_ok_iff]
  refine ⟨xs.map fun x => .text x.display, rfl, ?_⟩
  rw [List.forall₂_map_left_iff, List.forall₂_map_right_iff]
  exact List.forall₂_same.mpr fun x _ => scalar_text x.display

/-- Every value of every property has a text. -/
def Value.PropertiesHaveTexts (entries : Entries) : Prop :=
  ∀ entry ∈ entries, Params.membersHaveText entry.2 = true

theorem displayProperties_eq {entries : Entries} (h : Value.PropertiesHaveTexts entries) :
    Params.displayProperties (.dict entries) =
      .ok (.dict (entries.map fun entry => (entry.1, Params.displayMembers entry.2))) :=
  if_pos (List.all_eq_true.mpr h)

theorem propertiesHaveTexts_of_display {entries : Entries} {displayed : Value}
    (h : Params.displayProperties (.dict entries) = .ok displayed) :
    Value.PropertiesHaveTexts entries := by
  rw [Params.displayProperties] at h
  split_ifs at h with hall
  · exact List.all_eq_true.mp hall
  · exact absurd h nofun

theorem readProperties_of_display {v displayed : Value}
    (h : Params.displayProperties v = .ok displayed) :
    Params.readProperties v =
      (dictOf (listOf (scalar text?)) displayed).map (mapNamed distinct) := by
  rw [Params.readProperties, h]
  rfl

theorem exists_display_of_readProperties {v : Value} {properties : List (Text × List Text)}
    (h : Params.readProperties v = .ok properties) :
    ∃ displayed, Params.displayProperties v = .ok displayed ∧
      (dictOf (listOf (scalar text?)) displayed).map (mapNamed distinct) = .ok properties := by
  cases hdisplay : Params.displayProperties v with
  | ok displayed => exact ⟨displayed, rfl, (readProperties_of_display hdisplay).symm.trans h⟩
  | error issues =>
      rw [Params.readProperties, hdisplay] at h
      exact absurd h nofun

/-- The values under a name stand for those of a request body: they have texts, and the texts are
the same. -/
structure PropertyValue.StandFor (v : Value) (values : List PropertyValue) (xs : List Value) :
    Prop where
  members : v.members? = some xs
  haveTexts : Value.haveTexts xs = true
  display : xs.map Value.display = values.map fun x => x.toValue.display

/-- Properties are read by the texts of their values, repeats dropped afterwards. -/
theorem readProperties_eq {entries : Entries} {pairs : List (Text × List PropertyValue)}
    (h : List.Forall₂ (fun entry pair => key entry.1 = .ok pair.1 ∧
      ∃ xs, PropertyValue.StandFor entry.2 pair.2 xs) entries pairs) :
    Params.readProperties (.dict entries) =
      .ok (mapNamed PropertyValue.words (collectNamed pairs)) := by
  let displayed (values : List PropertyValue) : List Text := values.map fun x => x.toValue.display
  have htexts : Value.PropertiesHaveTexts entries := by
    refine forall_mem_of_forall₂ h.flip ?_
    rintro pair entry ⟨-, xs, hxs⟩
    rw [Params.membersHaveText, hxs.members]
    exact hxs.haveTexts
  have hread : dictOf (listOf (scalar text?)) (.dict (entries.map fun entry =>
      (entry.1, Params.displayMembers entry.2))) =
      .ok (mapNamed displayed (collectNamed pairs)) := by
    rw [dictOf_eq_ok_iff]
    refine ⟨_, mapNamed displayed pairs, rfl, collectNamed_mapNamed displayed pairs, ?_⟩
    rw [mapNamed, List.forall₂_map_left_iff, List.forall₂_map_right_iff]
    refine h.imp fun entry pair hentry => ⟨hentry.1, ?_⟩
    obtain ⟨-, xs, hxs⟩ := hentry
    rw [listOf_displayMembers hxs.members, hxs.display]
  rw [readProperties_of_display (displayProperties_eq htexts), hread]
  simp [Except.map, mapNamed, PropertyValue.words, displayed]

/-- What a property value is read as is the value itself, or the integer of a truth value. -/
theorem PropertyValue.toValue_of_read {leaves : JsonLeaves} {x : Value} (hx : x.IsJson leaves)
    {value : PropertyValue} (h : PropertyValue.read x = .ok value) :
    value.toValue = x.truthAsInteger := by
  cases hx with
  | bool b => cases b <;> rw [← Except.ok.inj h] <;> rfl
  | int short => rw [← Except.ok.inj h]; rfl
  | float admitted => rw [← Except.ok.inj h]; rfl
  | text admitted => rw [← Except.ok.inj h]; rfl
  | _ => exact absurd h (by simp [PropertyValue.read, text?, int?, float?, wording, Value.text?])

/-- The values of one property, read of JSON data. -/
theorem PropertyValue.members_of_read {v : Value} (hv : v.IsRead) {values : List PropertyValue}
    (h : listOf PropertyValue.read v = .ok values) :
    ∃ xs, PropertyValue.StandFor v.truthsAsIntegers values xs := by
  obtain ⟨xs, hxs, hread⟩ := listOf_eq_ok_iff.mp h
  cases hv with
  | list members =>
      obtain rfl := Option.some.inj hxs
      have hboth := (List.forall₂_and_left _ _).mpr ⟨members, hread⟩
      refine ⟨_, rfl, Value.haveTexts_iff.mpr (List.forall_mem_map.mpr ?_), ?_⟩
      · exact fun x hx => (members x hx).truthAsInteger.hasText
      · rw [← List.forall₂_eq_eq_eq, List.map_map, List.forall₂_map_left_iff,
          List.forall₂_map_right_iff]
        refine hboth.imp fun x value hx => ?_
        exact congrArg Value.display (PropertyValue.toValue_of_read hx.1 hx.2).symm
  | _ => exact absurd hxs (by simp [Value.members?])

/-- What holds of every reading of JSON data holds of all values of one property. -/
theorem PropertyValue.forall_of_listOf {leaves : JsonLeaves} {P : PropertyValue → Prop}
    (hP : ∀ x value, x.IsJson leaves → PropertyValue.read x = .ok value → P value) {v : Value}
    (hv : v.IsJson leaves) {values : List PropertyValue}
    (h : listOf PropertyValue.read v = .ok values) : ∀ value ∈ values, P value := by
  obtain ⟨xs, hxs, hread⟩ := listOf_eq_ok_iff.mp h
  cases hv with
  | list members =>
      obtain rfl := Option.some.inj hxs
      have hboth := (List.forall₂_and_left _ _).mpr ⟨members, hread⟩
      exact forall_mem_of_forall₂ hboth fun x value hx => hP x value hx.1 hx.2
  | _ => exact absurd hxs (by simp [Value.members?])

/-- What holds of every reading of JSON data holds of all property values, and their names are names
of the data. -/
theorem PropertyValue.forall_of_dictOf {leaves : JsonLeaves} {P : PropertyValue → Prop}
    (hP : ∀ x value, x.IsJson leaves → PropertyValue.read x = .ok value → P value) {v : Value}
    (hv : v.IsJson leaves) {properties : List (Text × List PropertyValue)}
    (h : dictOf (listOf PropertyValue.read) v = .ok properties) :
    ∀ property ∈ properties, leaves.word property.1 ∧ ∀ value ∈ property.2, P value := by
  obtain ⟨entries, pairs, rfl, rfl, hread⟩ := dictOf_eq_ok_iff.mp h
  cases hv with
  | @dict r distinct names members =>
      have hmember : ∀ member ∈ r, leaves.word member.1 ∧ member.2.IsJson leaves :=
        fun member hm => ⟨names member hm, members member hm⟩
      rw [Record.entries, List.forall₂_map_left_iff] at hread
      have hboth := (List.forall₂_and_left _ _).mpr ⟨hmember, hread⟩
      have hpairs : ∀ pair ∈ pairs, leaves.word pair.1 ∧ ∀ value ∈ pair.2, P value := by
        refine forall_mem_of_forall₂ hboth ?_
        rintro member pair ⟨⟨hname, hvalue⟩, hkey, hlist⟩
        rw [key_text] at hkey
        exact ⟨Except.ok.inj hkey ▸ hname, forall_of_listOf hP hvalue hlist⟩
      exact fun entry hentry => hpairs entry (mem_collectNamed hentry)

theorem readProperties_of_read {v : Value} (hv : v.IsRead)
    {properties : List (Text × List PropertyValue)}
    (h : dictOf (listOf PropertyValue.read) v = .ok properties) :
    Params.readProperties v.propertyTruthsAsIntegers =
      .ok (mapNamed PropertyValue.words (collectNamed properties)) := by
  obtain ⟨entries, pairs, rfl, rfl, hread⟩ := dictOf_eq_ok_iff.mp h
  -- the body has set the names already, and setting them once more changes nothing
  rw [collectNamed_idem]
  refine readProperties_eq ?_
  rw [List.forall₂_map_left_iff]
  have hvalues : ∀ entry ∈ entries, entry.2.IsRead := by
    cases hv with
    | dict distinct names members => exact List.forall_mem_map.mpr members
  refine ((List.forall₂_and_left _ _).mpr ⟨hvalues, hread⟩).imp ?_
  rintro entry pair ⟨hentry, hkey, hlist⟩
  exact ⟨hkey, PropertyValue.members_of_read hentry hlist⟩

/-- Every property value of a request body has a text. -/
def Request.HasTexts (r : Request) : Prop :=
  ∀ property ∈ r.properties, ∀ value ∈ property.2, value.toValue.hasText = true

/-- The properties that a request body hands on. -/
def Request.propertyEntries (r : Request) : Entries :=
  r.properties.map fun (name, values) => (.text name, .list (values.map PropertyValue.toValue))

theorem Request.hasTexts_iff {r : Request} :
    r.HasTexts ↔ Value.PropertiesHaveTexts r.propertyEntries := by
  rw [Value.PropertiesHaveTexts, propertyEntries, List.forall_mem_map]
  refine forall₂_congr fun property _ => ?_
  show _ ↔ Value.haveTexts (property.2.map PropertyValue.toValue) = true
  rw [Value.haveTexts_iff, List.forall_mem_map]

theorem readProperties_dump {r : Request} (h : r.HasTexts) :
    Params.readProperties (.dict r.propertyEntries) =
      .ok (mapNamed PropertyValue.words (collectNamed r.properties)) := by
  refine readProperties_eq ?_
  rw [Request.propertyEntries, List.forall₂_map_left_iff]
  refine List.forall₂_same.mpr fun pair hpair => ⟨key_text pair.1, _, rfl, ?_, List.map_map ..⟩
  exact Value.haveTexts_iff.mpr (List.forall_mem_map.mpr (h pair hpair))

/-- A body that was JSON has a text for every property value. -/
theorem Request.hasTexts_of_read {data : Value} (hdata : data.IsRead) {r : Request}
    (h : Request.read data = .ok r) : r.HasTexts := by
  obtain ⟨entries, rfl, haccepted⟩ := Request.accepted h
  intro property hproperty
  rcases field_eq_ok haccepted.properties with ⟨v, hv, hread⟩ | habsent
  · have htext (x : Value) (value : PropertyValue) (hx : x.IsRead)
        (hvalue : PropertyValue.read x = .ok value) : value.toValue.hasText = true := by
      rw [PropertyValue.toValue_of_read hx hvalue]
      exact hx.truthAsInteger.hasText
    exact (PropertyValue.forall_of_dictOf htext (hdata.of_get? hv) hread property hproperty).2
  · rw [← Except.ok.inj habsent] at hproperty
    exact absurd hproperty List.not_mem_nil

/-! ## The other fields -/

theorem nullable_textValue (query : Option Text) :
    nullable (scalar text?) (Params.textValue query) = .ok query := by
  cases query with
  | none => rfl
  | some t => exact nullable_text t

theorem nullable_price (price : Option Decimal) :
    nullable (scalar decimal?) (Params.priceValue price) = .ok price := by
  cases price <;> rfl

theorem TaxonId.read_toValue (id : TaxonId) : TaxonId.read id.toValue = .ok id := by
  cases id <;> rfl

theorem TaxonId.listOf_taxonIdsValue (ids : List TaxonId) :
    listOf TaxonId.read (Params.taxonIdsValue ids) = .ok ids := by
  refine listOf_eq_ok_iff.mpr ⟨_, rfl, ?_⟩
  rw [List.forall₂_map_left_iff]
  exact List.forall₂_same.mpr fun id _ => id.read_toValue

theorem readTaxonIds_dump (ids : List TaxonId) :
    Params.readTaxonIds (Params.taxonIdsValue ids) = .ok (distinct ids) := by
  show (listOf TaxonId.read (Params.taxonIdsValue ids)).map distinct = _
  rw [TaxonId.listOf_taxonIdsValue]
  rfl

/-- The dictionary that a request body hands on. -/
def Request.entries (r : Request) : Entries :=
  r.fields.map fun (name, v) => (.text (Text.ofString name), v)

theorem Request.get?_properties (r : Request) :
    Entries.get? r.entries "properties" = some (.dict r.propertyEntries) := rfl

/-- **A request body becomes parameters if its property values have texts.** -/
theorem Request.toParams_eq {r : Request} (h : r.HasTexts) : r.toParams = .ok r.asParams := by
  show Params.read (.dict r.entries) = _
  have offset : Entries.get? r.entries "from_" = some (.int r.offset) := rfl
  have query : Entries.get? r.entries "query" = some (Params.textValue r.query) := rfl
  have priceMin : Entries.get? r.entries "price_min" = some (Params.priceValue r.priceMin) := rfl
  have priceMax : Entries.get? r.entries "price_max" = some (Params.priceValue r.priceMax) := rfl
  have taxonIds : Entries.get? r.entries "taxon_ids" = some (Params.taxonIdsValue r.taxonIds) := rfl
  have browseMode : Entries.get? r.entries "browse_mode" = some (.bool r.browseMode) := rfl
  have sorting : Entries.get? r.entries "sorting" = some (Params.textValue r.sorting) := rfl
  refine Params.Accepted.read ⟨?_, ?_, ?_, ?_, ?_, ?_, ?_, ?_⟩
  · -- the body hands its offset on under the second of the two names
    rw [fieldEither, field_absent rfl]
    refine field_present offset ?_ _
    rfl
  · exact field_present query (nullable_textValue r.query) _
  · exact field_present priceMin (nullable_price r.priceMin) _
  · exact field_present priceMax (nullable_price r.priceMax) _
  · exact field_present r.get?_properties (readProperties_dump h) _
  · exact field_present taxonIds (readTaxonIds_dump r.taxonIds) _
  · refine field_present browseMode ?_ _
    rfl
  · refine field_present sorting ?_ _
    cases hsorting : r.sorting <;> simp [Request.asParams, hsorting, Params.textValue,
      Params.readSorting]

/-- A request body becomes the parameters that it stands for, and no other, exactly if its property
values have texts. -/
theorem Request.toParams_eq_ok_iff {r : Request} {p : Params} :
    r.toParams = .ok p ↔ r.HasTexts ∧ p = r.asParams := by
  constructor
  · intro h
    obtain ⟨entries, hentries, haccepted⟩ := Params.accepted h
    obtain rfl : r.entries = entries := Value.dict.inj hentries
    have hread : Checked.under (.name "properties")
        (Params.readProperties (.dict r.propertyEntries)) = .ok p.properties := by
      have hfield := haccepted.properties
      rwa [field, r.get?_properties] at hfield
    obtain ⟨displayed, hdisplay, -⟩ :=
      exists_display_of_readProperties (Checked.under_eq_ok_iff.mp hread)
    have htexts : r.HasTexts := hasTexts_iff.mpr (propertiesHaveTexts_of_display hdisplay)
    exact ⟨htexts, Except.ok.inj (h.symm.trans (toParams_eq htexts))⟩
  · rintro ⟨htexts, rfl⟩
    exact toParams_eq htexts

/-! ## Both ways -/

theorem readOffset_eq_ok {v : Value} {n : Nat} (h : Request.readOffset v = .ok n) :
    scalar int? (Params.nonNull v (.int 0)) = .ok (n : Int) := by
  unfold Request.readOffset at h
  cases hint : scalar int? v with
  | error issues => exact absurd (hint ▸ h) (by simp)
  | ok m =>
      simp only [hint] at h
      split_ifs at h with hneg
      · exact absurd h (by simp [Checked.fail])
      · have hm : (n : Int) = m := by
          rw [← Except.ok.inj h]
          omega
        cases v with
        | null => exact absurd hint (by simp [scalar, int?, wording, Value.text?, Checked.fail])
        | _ => exact hm ▸ hint

theorem bool_eq_ok {v : Value} {b : Bool} (h : scalar bool? v = .ok b) :
    scalar bool? (Params.nonNull v (.bool false)) = .ok b := by
  cases v with
  | null => exact absurd h (by simp [scalar, bool?, wording, Value.text?, Checked.fail])
  | _ => exact h

theorem taxonIds_eq_ok {v : Value} {ids : List TaxonId} (h : listOf TaxonId.read v = .ok ids) :
    Params.readTaxonIds v = .ok (distinct ids) := by
  have hnull : Params.nonNull v (.list []) = v := by
    cases v with
    | null => exact absurd h (by simp [listOf, Value.members?, Checked.fail])
    | _ => rfl
  rw [Params.readTaxonIds, hnull, h]
  rfl

theorem sorting_eq_ok {v : Value} (hv : v.IsRead) {s : Option Text}
    (h : nullable (scalar text?) v = .ok s) :
    Params.readSorting v = (s.map Sorting.ofLabel).getD .default := by
  cases hv with
  | null =>
      rw [← Except.ok.inj h]
      rfl
  | @text t admitted =>
      rw [← Except.ok.inj ((nullable_text t).symm.trans h)]
      rfl
  | _ =>
      exact absurd h (by simp [nullable, scalar, text?, wording, Value.text?, Checked.fail,
        Except.map])

/-- **Data that a body accepts is read as the same parameters directly.** -/
theorem Request.read_withIntegerTruths {data : Value} (hdata : data.IsRead) {r : Request}
    (h : Request.read data = .ok r) : Params.read data.withIntegerTruths = .ok r.asParams := by
  obtain ⟨entries, rfl, haccepted⟩ := Request.accepted h
  -- no field but the properties is touched
  have hget {name : Text} (hname : name ≠ "properties") :=
    Entries.get?_map_of_ne hname Value.propertyTruthsAsIntegers entries
  refine Params.Accepted.read ⟨?_, ?_, ?_, ?_, ?_, ?_, ?_, ?_⟩
  · exact fieldEither_transfer Int.ofNat (hget (by decide)) (hget (by decide))
      (fun v n => readOffset_eq_ok) (fun n h => by rw [← Except.ok.inj h]; rfl) haccepted.offset
  · exact field_transfer id (hget (by decide)) (fun v q _ h => h) (fun q h => h) haccepted.query
  · exact field_transfer id (hget (by decide)) (fun v q _ h => h) (fun q h => h) haccepted.priceMin
  · exact field_transfer id (hget (by decide)) (fun v q _ h => h) (fun q h => h) haccepted.priceMax
  · refine field_transfer (fun pairs => mapNamed PropertyValue.words (collectNamed pairs))
      (Entries.get?_map_self _ _ entries) ?_ ?_ haccepted.properties
    · intro v properties hv hread
      exact readProperties_of_read (hdata.of_get? hv) hread
    · intro properties hread
      rw [← Except.ok.inj hread]
      rfl
  · refine field_transfer distinct (hget (by decide)) (fun v ids _ => taxonIds_eq_ok) ?_
      haccepted.taxonIds
    intro ids hread
    rw [← Except.ok.inj hread]
    rfl
  · exact field_transfer id (hget (by decide)) (fun v b _ => bool_eq_ok) (fun b h => h)
      haccepted.browseMode
  · refine field_transfer (fun s => (s.map Sorting.ofLabel).getD .default) (hget (by decide)) ?_ ?_
      haccepted.sorting
    · intro v s hv hread
      exact congrArg Except.ok (sorting_eq_ok (hdata.of_get? hv) hread)
    · intro s hread
      rw [← Except.ok.inj hread]
      rfl

end FacetSearch
