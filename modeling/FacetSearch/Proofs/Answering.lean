/-
# FacetSearch.Proofs.Answering — what data becomes as an answer.

Data is promised to be a dictionary of names, is brought into its plain form and is written.  Data
that is no dictionary breaks the promise, a surrogate or too deep a nesting leaves it without a
plain form, and everything else is answered with status 200.
-/
import FacetSearch.Http.Endpoint
import FacetSearch.Proofs.JsonText

namespace FacetSearch

open Validation

/-! ## Envelopes -/

namespace Envelope

section Leaves

variable {leaves : JsonLeaves} (hleaves : ∀ t : Text, t.isScalar = true → leaves.word t)

include hleaves

theorem success_isJson {data : Value} (hdata : data.IsJson leaves) {message id : Text}
    (hmessage : leaves.word message) (hid : leaves.word id) :
    (success data (.text message) (.text id)).IsJson leaves := by
  have hnames : [Text.ofString "success", Text.ofString "message", Text.ofString "data",
      Text.ofString "trace_id"].Nodup := by decide
  refine .record hnames (fun field _ => hleaves _ (Text.isScalar_ofString field.1)) ?_
  simp only [List.forall_mem_cons]
  exact ⟨.bool true, .text hmessage, hdata, .text hid, nofun⟩

theorem failure_isJson {message details : Value} (hmessage : message.IsJson leaves)
    {code id : Text} (hcode : leaves.word code) (hdetails : details.IsJson leaves)
    (hid : leaves.word id) :
    (failure message (.text code) details (.text id)).IsJson leaves := by
  have hnames : [Text.ofString "success", Text.ofString "error",
      Text.ofString "trace_id"].Nodup := by decide
  have hinner : [Text.ofString "code", Text.ofString "message", Text.ofString "details"].Nodup := by
    decide
  have hlabel (s : String) : leaves.word (Text.ofString s) := hleaves _ (Text.isScalar_ofString s)
  refine .record hnames (fun field _ => hlabel field.1) ?_
  simp only [List.forall_mem_cons]
  refine ⟨.bool false, ?_, .text hid, nofun⟩
  refine .record hinner (fun field _ => hlabel field.1) ?_
  simp only [List.forall_mem_cons]
  exact ⟨.text hcode, hmessage, hdetails, nofun⟩

end Leaves

theorem success_written {data : Value} (hdata : data.IsJson .written) {message id : Text}
    (hmessage : message.isScalar = true) (hid : id.isScalar = true) :
    (success data (.text message) (.text id)).IsJson .written :=
  success_isJson (fun _ h => h) hdata hmessage hid

theorem failure_written {code message id : Text} (hcode : code.isScalar = true)
    (hmessage : message.isScalar = true) (hid : id.isScalar = true) :
    (failure (.text message) (.text code) .null (.text id)).IsJson .written :=
  failure_isJson (fun _ h => h) (.text hmessage) hcode .null hid

end Envelope

/-- A key that names nothing: it is neither a text nor bytes. -/
structure Value.Nameless (k : Value) : Prop where
  noText : k.text? = none
  noBytes : ∀ bs, k ≠ .bytes bs

theorem Value.Nameless.key_ne_ok {k : Value} (h : k.Nameless) {name : Text} :
    key k ≠ .ok name := by
  intro hkey
  have htext : Validation.text? k = .ok name :=
    scalar_eq_ok_iff.mp (Checked.under_eq_ok_iff.mp (Checked.under_eq_ok_iff.mp hkey))
  cases k with
  | bytes bs => exact h.noBytes bs rfl
  | _ => simp [Validation.text?, wording, h.noText] at htext

namespace Answer

/-- The entries of the envelope of a success. -/
def successEntries (data message id : Value) : Entries :=
  [("success", .bool true), ("message", message), ("data", data), ("trace_id", id)]

/-- Only the data can break the promise. -/
theorem ofEntries_success (data : Value) (message id : Text) :
    Answer.ofEntries (successEntries data (.text message) (.text id)) =
      Checked.ap (Checked.ap (.ok (Answer.mk true message))
        (required (successEntries data (.text message) (.text id)) "data" record))
        (.ok (some id)) := by
  let entries := successEntries data (.text message) (.text id)
  have success : Entries.get? entries "success" = some (.bool true) := rfl
  have hmessage : Entries.get? entries "message" = some (.text message) := rfl
  have traceId : Entries.get? entries "trace_id" = some (.text id) := rfl
  have hsuccess : scalar bool? (.bool true) = .ok true := rfl
  rw [Answer.ofEntries, required_present success hsuccess,
    required_present hmessage (scalar_text message), field_present traceId (nullable_text id)]
  rfl

theorem read_success {r : Record} (distinct : (r.map Prod.fst).Nodup) (message id : Text) :
    Answer.read (Envelope.success (.dict r.entries) (.text message) (.text id)) =
      .ok ⟨true, message, r, some id⟩ := by
  let entries := successEntries (.dict r.entries) (.text message) (.text id)
  have data : Entries.get? entries "data" = some r.toValue := rfl
  show Answer.ofEntries entries = _
  rw [ofEntries_success, required_present data (record_toValue distinct)]
  rfl

/-- An answer that keeps the promise has the message and the id that were given. -/
theorem read_eq_ok {data : Value} {message id : Text} {a : Answer}
    (h : Answer.read (Envelope.success data (.text message) (.text id)) = .ok a) :
    ∃ r, record data = .ok r ∧ a = ⟨true, message, r, some id⟩ := by
  have hentries : Answer.ofEntries (successEntries data (.text message) (.text id)) = .ok a := h
  rw [ofEntries_success] at hentries
  obtain ⟨_, _, hdata, hid, rfl⟩ := Checked.ap_eq_ok_iff.mp hentries
  obtain ⟨_, r, hmk, hr, rfl⟩ := Checked.ap_eq_ok_iff.mp hdata
  obtain rfl := Except.ok.inj hid
  obtain rfl := Except.ok.inj hmk
  have hrecord : record data = .ok r := Checked.under_eq_ok_iff.mp hr
  exact ⟨r, hrecord, rfl⟩

/-- The promise is broken by data that is no dictionary, and by a key that names nothing. -/
theorem read_nameless {data : Value}
    (h : ∀ entries, data = .dict entries → ∃ entry ∈ entries, entry.1.Nameless)
    (message id : Value) :
    ∃ issues, Answer.read (Envelope.success data message id) = .error issues := by
  cases hread : Answer.read (Envelope.success data message id) with
  | error issues => exact ⟨issues, rfl⟩
  | ok a =>
      have hentries : Answer.ofEntries (successEntries data message id) = .ok a := hread
      -- all four fields would have been read, the data among them
      simp only [Answer.ofEntries, Checked.ap_eq_ok_iff] at hentries
      obtain ⟨_, _, ⟨_, _, -, hdata, -⟩, -, -⟩ := hentries
      have hrecord : record data = .ok _ := Checked.under_eq_ok_iff.mp hdata
      obtain ⟨entries, pairs, heq, -, hpairs⟩ := dictOf_eq_ok_iff.mp hrecord
      obtain ⟨entry, hentry, hnameless⟩ := h entries heq
      have hnamed : ∀ entry ∈ entries, ∃ name, key entry.1 = .ok name :=
        forall_mem_of_forall₂ hpairs.flip fun pair _ hpair => ⟨pair.1, hpair.1⟩
      obtain ⟨name, hname⟩ := hnamed entry hentry
      exact absurd hname hnameless.key_ne_ok

end Answer

/-- A failure that no handler answers: it neither comes from the domain nor has a status. -/
def Failure.Escapes (failure : Failure) : Prop :=
  failure.isDomain = false ∧ ∀ code detail, failure ≠ .status code detail

theorem Failure.escapes_general (fault : GeneralFault) (args : List Value)
    (cause : Option GeneralFault) : Failure.Escapes (.general fault args cause) :=
  ⟨rfl, fun _ _ h => Failure.noConfusion h⟩

theorem Failure.escapes_invalid (model : Text) (issues : List Issue) :
    Failure.Escapes (.invalid model issues) :=
  ⟨rfl, fun _ _ h => Failure.noConfusion h⟩

theorem HttpResponse.json_cases (status : Int) (content : Value) :
    (∃ body, Json.write .body content = .ok body ∧
      HttpResponse.json status content = .ok (.ofJson (.number status) body)) ∨
    ∃ failure, failure.Escapes ∧ HttpResponse.json status content = .error failure := by
  rw [json, jsonBody]
  cases hwrite : Json.write .body content with
  | error fault =>
      refine Or.inr ⟨ofWriteFault fault, ?_, rfl⟩
      cases fault <;> exact Failure.escapes_general _ _ _
  | ok body =>
      by_cases hscalar : body.isScalar = true
      · refine Or.inl ⟨body, rfl, ?_⟩
        simp only [hscalar, if_true]
        rfl
      · refine Or.inr ⟨unencodable, Failure.escapes_general _ _ _, ?_⟩
        simp only [hscalar]
        rfl

namespace Endpoint

variable {message id : Text}

theorem reply_ok {message : Value} {data : Value} {response : HttpResponse}
    (h : respond message id data = .ok response) : reply message id (.ok data) = .ok response := by
  rw [reply, h]
  rfl

theorem reply_error {message : Value} {data : Value} {failure : Failure}
    (h : respond message id data = .error failure) :
    reply message id (.ok data) = .error (.failed failure) := by
  rw [reply, h]
  rfl

/-- Data with a plain form is answered with it. -/
theorem respond_plain {r s : Record} (distinct : (r.map Prod.fst).Nodup)
    (hplain : Json.plainRecord? r = some s) (hs : (Value.dict s.entries).IsJson .written)
    (hmessage : message.isScalar = true) (hid : id.isScalar = true) :
    ∃ body, Json.write .body (Envelope.success (.dict s.entries) (.text message) (.text id)) =
        .ok body ∧
      respond (.text message) id (.dict r.entries) = .ok (.ofJson (.number 200) body) := by
  obtain ⟨body, hbody, hjson⟩ :=
    HttpResponse.json_isOk (Envelope.success_written hs hmessage hid) 200
  refine ⟨body, hbody, ?_⟩
  rw [respond, Answer.read_success distinct]
  simp only [hplain]
  exact hjson

/-- A JSON object that can be written as it is and is not too deep is answered as it is. -/
theorem respond_written {r : Record} (h : (Value.dict r.entries).IsJson .written)
    (hdeep : ∀ member ∈ r, Json.nesting member.2 ≤ Json.maxNesting)
    (hmessage : message.isScalar = true) (hid : id.isScalar = true) :
    ∃ body, Json.write .body (Envelope.success (.dict r.entries) (.text message) (.text id)) =
        .ok body ∧
      respond (.text message) id (.dict r.entries) = .ok (.ofJson (.number 200) body) := by
  obtain ⟨distinct, names, members⟩ := Value.isJson_dict_iff.mp h
  have hplain : Json.plainRecord? r = some r := by
    apply Json.plainRecord?_eq_some _ hdeep
    apply List.forall₂_same.mpr
    intro member hmember
    exact ⟨names member hmember, rfl, Json.plain?_eq_self (members member hmember)⟩
  exact respond_plain distinct hplain h hmessage hid

/-- A JSON object without surrogates that is not too deep is answered, with status 200. -/
theorem respond_scalar {r : Record} (h : (Value.dict r.entries).IsJson .scalar)
    (hdeep : ∀ member ∈ r, Json.nesting member.2 ≤ Json.maxNesting)
    (hmessage : message.isScalar = true) (hid : id.isScalar = true) :
    ∃ body, respond (.text message) id (.dict r.entries) = .ok (.ofJson (.number 200) body) := by
  obtain ⟨distinct, names, members⟩ := Value.isJson_dict_iff.mp h
  obtain ⟨s, hs, hwritten⟩ := Json.exists_plainRecord h
  obtain ⟨body, -, hrespond⟩ :=
    respond_plain distinct (Json.plainRecord?_eq_some hs hdeep) hwritten hmessage hid
  exact ⟨body, hrespond⟩

/-- Data that is no dictionary of names is a failure. -/
theorem respond_nameless {data : Value}
    (h : ∀ entries, data = .dict entries → ∃ entry ∈ entries, entry.1.Nameless) (message : Value)
    (id : Text) :
    ∃ issues, respond message id data = .error (.invalid Answer.modelName issues) := by
  obtain ⟨issues, hissues⟩ := Answer.read_nameless h message (.text id)
  refine ⟨issues, ?_⟩
  rw [respond, hissues]

/-- An object without a plain form is a failure. -/
theorem respond_unwritable {r : Record} (distinct : (r.map Prod.fst).Nodup)
    (h : Json.plainRecord? r = none) (message id : Text) :
    respond (.text message) id (.dict r.entries) = .error unwritable := by
  rw [respond, Answer.read_success distinct]
  simp only [h]

/-- **Any data is answered with its plain form, or is a failure that escapes.** -/
theorem respond_cases (data : Value) (message id : Text) :
    (∃ (r s : Record) (body : Text), record data = .ok r ∧ Json.plainRecord? r = some s ∧
      Json.write .body (Envelope.success (.dict s.entries) (.text message) (.text id)) = .ok body ∧
      respond (.text message) id data = .ok (.ofJson (.number 200) body)) ∨
    ∃ failure, failure.Escapes ∧ respond (.text message) id data = .error failure := by
  rw [respond]
  cases hread : Answer.read (Envelope.success data (.text message) (.text id)) with
  | error issues => exact Or.inr ⟨_, Failure.escapes_invalid Answer.modelName issues, rfl⟩
  | ok a =>
      -- what keeps the promise may still have no plain form, or one that cannot be written
      obtain ⟨r, hr, rfl⟩ := Answer.read_eq_ok hread
      cases hplain : Json.plainRecord? r with
      | none => exact Or.inr ⟨unwritable, Failure.escapes_general _ _ _, by simp only [hplain]⟩
      | some s =>
          simp only [hplain]
          have hcases := HttpResponse.json_cases 200
            (Envelope.success (.dict s.entries) (.text message) (.text id))
          rcases hcases with ⟨body, hbody, hjson⟩ | hfailure
          · exact Or.inl ⟨r, s, body, hr, hplain, hbody, hjson⟩
          · exact Or.inr hfailure

end Endpoint

end FacetSearch
