/-
# FacetSearch.Proofs.AcceptedBody — nothing goes wrong after a body is accepted.

An accepted body becomes parameters, the parameters become a document, and they are the parameters
that the data of the body gives directly.  The document is answered too, as long as no surrogate is
in it; one that is could not be spelled.  Only the parameters bring surrogates into the document, so
one elsewhere in the data does no harm.
-/
import FacetSearch.Http.Dispatch
import FacetSearch.Proofs.Answering
import FacetSearch.Proofs.Construction
import FacetSearch.Proofs.EntryPaths

namespace FacetSearch

open Validation

/-! ## Surrogates come from the data only -/

theorem mem_distinct {α : Type} [DecidableEq α] {xs : List α} {x : α} (h : x ∈ distinct xs) :
    x ∈ xs := by
  induction xs with
  | nil => exact h
  | cons y ys ih =>
      rcases List.mem_cons.mp h with rfl | h
      · exact List.mem_cons_self
      · exact List.mem_cons_of_mem _ (ih (List.mem_filter.mp h).1)

theorem text_of_nullable {v : Value} (hv : v.IsJson .scalar) {query : Option Text}
    (h : nullable (scalar text?) v = .ok query) : ∀ t, query = some t → t.isScalar = true := by
  rintro t rfl
  cases hv with
  | @text u admitted =>
      rw [← Option.some.inj (Except.ok.inj ((nullable_text u).symm.trans h))]
      exact admitted
  | null => exact absurd h (by simp [nullable])
  | _ =>
      exact absurd h (by simp [nullable, scalar, text?, wording, Value.text?, Checked.fail,
        Except.map])

theorem isScalar_display_of_read {x : Value} (hx : x.IsJson .scalar) {value : PropertyValue}
    (h : PropertyValue.read x = .ok value) : value.toValue.display.isScalar = true := by
  rw [PropertyValue.toValue_of_read hx h]
  cases hx with
  | null => exact Text.isScalar_ofString _
  | bool b => exact Text.isScalar_ofInt _
  | @int n _ => exact Text.isScalar_ofInt n
  | @float x _ => exact x.isScalar_toText
  | text admitted => exact admitted
  | _ => exact absurd h (by simp [PropertyValue.read, text?, int?, float?, wording, Value.text?])

theorem isScalar_of_readTaxonId {x : Value} (hx : x.IsJson .scalar) {t : Text}
    (h : TaxonId.read x = .ok (.word t)) : t.isScalar = true := by
  cases hx with
  | @text u admitted =>
      rw [← TaxonId.word.inj (Except.ok.inj h)]
      exact admitted
  | int _ => exact absurd h nofun
  | bool b => exact absurd h nofun
  | _ =>
      -- nothing else has a text, so at best it is an integer
      simp only [TaxonId.read] at h
      split at h <;> simp_all [text?, wording, Value.text?]

theorem taxonIds_spelled {v : Value} (hv : v.IsJson .scalar) {ids : List TaxonId}
    (h : listOf TaxonId.read v = .ok ids) : ∀ t, TaxonId.word t ∈ ids → t.isScalar = true := by
  obtain ⟨xs, hxs, hread⟩ := listOf_eq_ok_iff.mp h
  cases hv with
  | list members =>
      obtain rfl := Option.some.inj hxs
      have hboth := (List.forall₂_and_left _ _).mpr ⟨members, hread⟩
      have hids : ∀ id ∈ ids, ∀ t, id = .word t → t.isScalar = true :=
        forall_mem_of_forall₂ hboth fun x id hx t ht => isScalar_of_readTaxonId hx.1 (ht ▸ hx.2)
      exact fun t ht => hids _ ht t rfl
  | _ => exact absurd hxs (by simp [Value.members?])

theorem Request.asParams_spelled {data : Value} (hdata : data.IsJson .scalar) {r : Request}
    (h : Request.read data = .ok r) : r.asParams.Spelled := by
  obtain ⟨entries, rfl, haccepted⟩ := Request.accepted h
  refine ⟨?_, ?_, ?_⟩
  · rcases field_eq_ok haccepted.query with ⟨v, hv, hread⟩ | habsent
    · exact text_of_nullable (hdata.of_get? hv) hread
    · intro t ht
      exact absurd (habsent.trans (congrArg Except.ok ht)) nofun
  · have hproperties : ∀ entry ∈ r.properties, entry.1.isScalar = true ∧
        ∀ value ∈ entry.2, value.toValue.display.isScalar = true := by
      rcases field_eq_ok haccepted.properties with ⟨v, hv, hread⟩ | habsent
      · exact PropertyValue.forall_of_dictOf
          (P := fun value => value.toValue.display.isScalar = true)
          (fun _ _ hx hvalue => isScalar_display_of_read hx hvalue) (hdata.of_get? hv) hread
      · rw [← Except.ok.inj habsent]
        exact nofun
    -- setting names and dropping repeats leave only what was there
    intro entry' hentry'
    obtain ⟨entry, hentry, rfl⟩ := List.mem_map.mp hentry'
    obtain ⟨hname, hvalues⟩ := hproperties entry (mem_collectNamed hentry)
    refine ⟨hname, ?_⟩
    intro word hword
    obtain ⟨value, hvalue, rfl⟩ := List.mem_map.mp (mem_distinct hword)
    exact hvalues value hvalue
  · intro t ht
    rcases field_eq_ok haccepted.taxonIds with ⟨v, hv, hread⟩ | habsent
    · exact taxonIds_spelled (hdata.of_get? hv) hread t (mem_distinct ht)
    · have hnone : r.taxonIds = [] := (Except.ok.inj habsent).symm
      exact absurd (mem_distinct ht) (hnone ▸ List.not_mem_nil)

/-! ## After a body is accepted -/

/-- An accepted body has a text for every property value. -/
theorem Body.hasTexts_of_read {maxDepth : Nat} {headers : Headers} {bytes : List UInt8}
    {r : Request} (h : Body.read maxDepth headers bytes = .ok r) : r.HasTexts := by
  obtain ⟨data, -, hdata, hread⟩ := Body.read_eq_ok h
  exact Request.hasTexts_of_read hdata hread

/-- The document for parameters without surrogates holds none. -/
theorem Params.Spelled.compile_scalar {p : Params} (h : p.Spelled) :
    (Service.compile p).IsJson .scalar := by
  have hadmitted := h.admitted JsonLeaves.scalar_usual fun _ _ => ⟨trivial, trivial⟩
  exact (Service.compile_fits JsonLeaves.scalar_usual hadmitted).json

/-- Leaves of any kind. -/
def JsonLeaves.any : JsonLeaves := ⟨fun _ => True, fun _ => True, fun _ => True⟩

/-- The document for any parameters is an object with words for names, and not too deep. -/
theorem Service.compile_object (p : Params) :
    ∃ document : Record, compile p = .dict document.entries ∧
      (Value.dict document.entries).IsJson .any ∧
      (∀ member ∈ document, member.1.isScalar = true) ∧
      ∀ member ∈ document, Json.nesting member.2 ≤ Json.maxNesting := by
  have husual : JsonLeaves.any.Usual := ⟨fun _ => trivial, trivial, fun _ _ => trivial⟩
  have hadmitted : p.Admitted .any := by
    refine ⟨?_, ?_, ?_, ?_⟩
    · exact fun _ _ => trivial
    · exact fun _ _ _ _ => trivial
    · exact fun _ _ => trivial
    · exact fun _ _ => ⟨trivial, trivial⟩
  obtain ⟨fields, hfields⟩ : ∃ fields, compile p = Value.record fields := ⟨_, rfl⟩
  obtain ⟨document, hdocument, hjson, hdeep⟩ := Service.compile_record husual hadmitted
  refine ⟨document, hdocument, hjson, ?_, hdeep⟩
  rw [hdocument, Value.record_eq] at hfields
  rw [Record.entries_injective (Value.dict.inj hfields)]
  exact List.forall_mem_map.mpr fun field _ => Text.isScalar_ofString field.1

namespace Endpoint

/-- The parameters of an accepted body. -/
theorem params_eq {r : Request} (h : r.HasTexts) : Endpoint.params r = .ok r.asParams := by
  rw [params, Request.toParams_eq h]
  rfl

theorem compileAccepted_eq (id : Text) {r : Request} (h : r.HasTexts) :
    compileAccepted id r = reply compileMessage id (.ok (Service.compile r.asParams)) := by
  unfold compileAccepted
  rw [params_eq h]

/-- An object that is answered holds no surrogate. -/
theorem scalar_of_respond {leaves : JsonLeaves} {document : Record}
    (h : (Value.dict document.entries).IsJson leaves)
    (hnames : ∀ member ∈ document, member.1.isScalar = true) {message id : Text}
    {response : HttpResponse}
    (hrespond : respond (.text message) id (.dict document.entries) = .ok response) :
    (Value.dict document.entries).IsJson { leaves with word := fun t => t.isScalar = true } := by
  obtain ⟨distinct, -, members⟩ := Value.isJson_dict_iff.mp h
  cases hplain : Json.plainRecord? document with
  | none => exact absurd ((respond_unwritable distinct hplain message id).symm.trans hrespond) nofun
  | some plain =>
      refine .dict distinct hnames fun member hmember => ?_
      obtain ⟨-, w, hw⟩ := Json.mem_of_plainRecord? hplain member hmember
      exact Json.scalar_of_plain? (members member hmember) hw

/-- The compile endpoint answers exactly the documents without surrogates. -/
theorem compileAccepted_isOk_iff {r : Request} (h : r.HasTexts) {id : Text}
    (hid : id.isScalar = true) :
    (∃ body, compileAccepted id r = .ok (.ofJson (.number 200) body)) ↔
      (Service.compile r.asParams).IsJson .scalar := by
  obtain ⟨document, hdocument, hjson, hnames, hdeep⟩ := Service.compile_object r.asParams
  rw [compileAccepted_eq id h, hdocument]
  constructor
  · rintro ⟨body, hreply⟩
    have hrespond := Checked.mapError_eq_ok_iff.mp hreply
    exact scalar_of_respond hjson hnames hrespond
  · intro hscalar
    obtain ⟨body, hbody⟩ := respond_scalar hscalar hdeep (Text.isScalar_ofString "컴파일 성공") hid
    exact ⟨body, reply_ok hbody⟩

end Endpoint

/-- **The two ways in agree, and nothing goes wrong after a body is accepted.**  Whatever JSON data
a body accepts becomes parameters with an offset that is not negative; the document for them can be
built; and they are what the data gives directly, truth values among the values of properties being
integers.  A body that arrives and is accepted is such data, so it becomes parameters too.  On the
compile endpoint its document is answered exactly if no surrogate is in it; none is if the
parameters hold none, and they hold none if the data does not. -/
theorem accepted_body_agrees :
    (∀ (data : Value) (r : Request), data.IsRead → Request.read data = .ok r →
      ∃ p, r.toParams = .ok p ∧ 0 ≤ p.offset ∧
        Document.read (.dict (compile p).arguments) = .ok (compile p) ∧
        Params.read data.withIntegerTruths = .ok p) ∧
    (∀ (maxDepth : Nat) (headers : Headers) (bytes : List UInt8) (r : Request),
      Body.read maxDepth headers bytes = .ok r →
      ∃ data, Body.content maxDepth headers bytes = .ok data ∧ data.IsRead ∧
        Request.read data = .ok r ∧
        ∃ p, Endpoint.params r = .ok p ∧ Params.read data.withIntegerTruths = .ok p ∧
          (∀ id : Text, id.isScalar = true →
            ((∃ body, Endpoint.compileAccepted id r = .ok (.ofJson (.number 200) body)) ↔
              (Service.compile p).IsJson .scalar)) ∧
          (p.Spelled → (Service.compile p).IsJson .scalar) ∧
          (data.IsJson .scalar → p.Spelled)) := by
  refine ⟨?_, ?_⟩
  · intro data r hdata h
    refine ⟨r.asParams, Request.toParams_eq (Request.hasTexts_of_read hdata h), ?_,
      read_compile_arguments _, Request.read_withIntegerTruths hdata h⟩
    exact Int.natCast_nonneg r.offset
  · intro maxDepth headers bytes r h
    obtain ⟨data, hcontent, hdata, hread⟩ := Body.read_eq_ok h
    have htexts := Request.hasTexts_of_read hdata hread
    refine ⟨data, hcontent, hdata, hread, r.asParams, Endpoint.params_eq htexts,
      Request.read_withIntegerTruths hdata hread, ?_, Params.Spelled.compile_scalar, ?_⟩
    · exact fun id hid => Endpoint.compileAccepted_isOk_iff htexts hid
    · exact fun hscalar => Request.asParams_spelled hscalar hread

/-- Data in which one value of a property is written in four ways. -/
def repeatedData : Value := .dict (Record.entries
  [("from", .int 3), ("properties", .dict (Record.entries
    [("size", .list [.int 1, .bool true, "1", .float (.ofInt 1)])])),
    ("taxon_ids", .list [.int 5, "5", .int 5]), ("sorting", "name_asc")])

/-- The request that `repeatedData` is read as. -/
def repeatedRequest : Request where
  offset := 3
  query := none
  priceMin := none
  priceMax := none
  properties := [("size", [.int 1, .int 1, .text "1", .float (.ofInt 1)])]
  taxonIds := [.number 5, .word "5", .number 5]
  browseMode := false
  sorting := some "name_asc"

/-- The parameters that `repeatedData` is read as. -/
def repeatedParams : Params where
  offset := 3
  query := none
  priceMin := none
  priceMax := none
  properties := [("size", ["1", "1.0"])]
  taxonIds := [.number 5, .word "5"]
  browseMode := false
  sorting := .nameAsc

/-- The bytes of a text of ASCII characters. -/
def asciiBytes (s : String) : List UInt8 := s.toList.map fun c => UInt8.ofNat c.toNat

/-- The headers of a request that says JSON. -/
def jsonHeaders : Headers := [("content-type", "application/json")]

/-- A body that says `repeatedData`. -/
def repeatedBody : List UInt8 :=
  asciiBytes ("\x7b\"from\":3,\"properties\":\x7b\"size\":[1,true,\"1\",1.0]\x7d," ++
    "\"taxon_ids\":[5,\"5\",5],\"sorting\":\"name_asc\"\x7d")

theorem accepted_body_agrees_repeated :
    (repeatedData.IsRead ∧ Request.read repeatedData = .ok repeatedRequest ∧
      repeatedRequest.toParams = .ok repeatedParams ∧
      Params.read repeatedData.withIntegerTruths = .ok repeatedParams) ∧
    Body.read 950 jsonHeaders repeatedBody = .ok repeatedRequest ∧
      ∃ body, Endpoint.compileAccepted "-" repeatedRequest = .ok (.ofJson (.number 200) body) := by
  refine ⟨?_, ?_⟩
  · have hshort (n : Int) (h : ShortInteger n) : (Value.int n).IsRead := .int h
    have hdata : repeatedData.IsRead := by
      refine .dict (by decide) (fun _ _ => trivial) ?_
      simp only [List.forall_mem_cons]
      refine ⟨hshort 3 (by decide), ?_, ?_, .text trivial, nofun⟩
      · refine .dict (List.nodup_singleton _) (fun _ _ => trivial)
          (List.forall_mem_singleton.mpr (.list ?_))
        simp only [List.forall_mem_cons]
        exact ⟨hshort 1 (by decide), .bool true, .text trivial, .float trivial, nofun⟩
      · refine .list ?_
        simp only [List.forall_mem_cons]
        exact ⟨hshort 5 (by decide), .text trivial, hshort 5 (by decide), nofun⟩
    have hread : Request.read repeatedData = .ok repeatedRequest :=
      Checked.eq_ok_of_toOption (by decide +kernel)
    obtain ⟨p, hp, -, -, hdirect⟩ :=
      accepted_body_agrees.1 repeatedData repeatedRequest hdata hread
    have hparams : repeatedRequest.toParams = .ok repeatedParams :=
      Checked.eq_ok_of_toOption (by decide +kernel)
    obtain rfl := Except.ok.inj (hp.symm.trans hparams)
    exact ⟨hdata, hread, hp, hdirect⟩
  · have hbody : Body.read 950 jsonHeaders repeatedBody = .ok repeatedRequest :=
      Checked.eq_ok_of_toOption (by decide +kernel)
    obtain ⟨data, hcontent, hdata, -, p, -, -, hanswered, hdocument, hparams⟩ :=
      accepted_body_agrees.2 950 jsonHeaders repeatedBody repeatedRequest hbody
    -- a plain form is found by running, and data with a plain form holds no surrogate
    have hplain :
        ((Body.content 950 jsonHeaders repeatedBody).toOption.bind Json.plain?).isSome = true := by
      decide +kernel
    rw [hcontent] at hplain
    obtain ⟨w, hw⟩ := Option.isSome_iff_exists.mp hplain
    have hscalar : data.IsJson .scalar := by
      refine Value.IsJson.mono ?_ ?_ ?_ (Json.scalar_of_plain? hdata hw)
      · exact fun _ _ => trivial
      · exact fun _ _ => trivial
      · exact fun _ h => h
    have hspelled := hdocument (hparams hscalar)
    exact ⟨hbody, (hanswered "-" (Text.isScalar_ofString _)).mpr hspelled⟩

/-- A body whose query is a lone surrogate. -/
def surrogateBody : List UInt8 := asciiBytes "\x7b\"query\":\"\\ud800\"\x7d"

/-- The request that `surrogateBody` is read as. -/
def surrogateRequest : Request :=
  ⟨0, some [CodePoint.ofNat 0xD800], none, none, [], [], false, none⟩

/-- A body is accepted, and yet its document cannot be answered, for the surrogate in it. -/
theorem accepted_body_with_surrogate :
    Body.read 950 jsonHeaders surrogateBody = .ok surrogateRequest ∧
      Endpoint.compileAccepted "-" surrogateRequest = .error (.failed Endpoint.unwritable) := by
  refine ⟨Checked.eq_ok_of_toOption (by decide +kernel), ?_⟩
  let d := compile surrogateRequest.asParams
  let document : Record := [("min_score", .float d.minScore), ("query", d.query.toValue),
    ("sort", .list (d.sort.map SortEntry.toValue)), ("from", .int d.offset),
    ("aggregations", d.aggregations.toValue)]
  have hnames : (document.map Prod.fst).Nodup := by
    show [Text.ofString "min_score", Text.ofString "query", Text.ofString "sort",
      Text.ofString "from", Text.ofString "aggregations"].Nodup
    decide
  have hplain : Json.plainRecord? document = none :=
    Option.isNone_iff_eq_none.mp (by decide +kernel)
  have hrespond : Endpoint.respond Endpoint.compileMessage "-" (.dict document.entries) =
      .error Endpoint.unwritable := Endpoint.respond_unwritable hnames hplain _ _
  calc Endpoint.compileAccepted "-" surrogateRequest
      = Endpoint.reply Endpoint.compileMessage "-" (.ok (.dict document.entries)) :=
        Endpoint.compileAccepted_eq _ nofun
    _ = .error (.failed Endpoint.unwritable) := Endpoint.reply_error hrespond

end FacetSearch
