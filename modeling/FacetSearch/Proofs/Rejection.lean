/-
# FacetSearch.Proofs.Rejection — how a rejected body is answered.

The details of the answer show every issue together with the value that was offered, and only the
particulars are made into texts on the way.  A value that JSON cannot say therefore spoils the whole
answer: a rejected body is answered with status 422 exactly if every value in question can be
written as it is, and with status 500 otherwise.
-/
import FacetSearch.Proofs.Issues
import FacetSearch.Proofs.Traffic

namespace FacetSearch

open Validation

/-! ## Errors -/

namespace Envelope

/-- An issue as it is found, the path beginning with `origin`: its particulars are still values. -/
def foundError (origin : List Step) (i : Issue) : Value :=
  .record ([("type", .text i.problem.code),
      ("loc", .list ((origin ++ i.path).map Step.toValue)),
      ("msg", .text i.problem.message), ("input", i.input)] ++
    (match i.problem.context? with
      | some particulars => [("ctx", .dict (particulars.map fun (name, x) => (.text name, x)))]
      | none => []))

/-- Nothing but the particulars of an error is changed for its answer. -/
theorem plainErrorOf_foundError (origin : List Step) (i : Issue) :
    plainErrorOf (foundError origin i) = .ok (errorOfIssue origin i) := by
  rw [foundError, errorOfIssue]
  cases i.problem.context? with
  | none => rfl
  | some particulars => rfl

/-- The details of a rejection are the errors as they were found, in order, their particulars made
into texts. -/
theorem plainErrorsOf_foundErrors (issues : List Issue) :
    plainErrorsOf (.list (issues.map (foundError [.name "body"]))) =
      .ok (Refusal.details issues) := by
  have hall : (issues.map (foundError [.name "body"])).mapM plainErrorOf =
      .ok (issues.map (errorOfIssue [.name "body"])) := by
    induction issues with
    | nil => rfl
    | cons i issues ih =>
        rw [List.map_cons, List.mapM_cons, plainErrorOf_foundError, ih]
        rfl
  show (List.mapM plainErrorOf _ >>= fun errors => pure (Value.list errors)) = _
  rw [hall]
  rfl

end Envelope

theorem Step.toValue_isJson {path : List Step} (h : SpelledPath path) :
    (Value.list (path.map Step.toValue)).IsJson .written := by
  refine .list (List.forall_mem_map.mpr fun step hstep => ?_)
  cases step with
  | name t => exact .text (h t hstep)
  | index i => exact .int trivial

namespace Issue.Located

variable {i : Issue}

/-- An issue with a value that can be written as it is makes such an error. -/
theorem errorOfIssue_isJson (h : i.Located .written) :
    (Envelope.errorOfIssue [.name "body"] i).IsJson .written := by
  have hcode : (Value.text i.problem.code).IsJson .written := .text i.problem.isScalar_code
  have hmessage : (Value.text i.problem.message).IsJson .written :=
    .text h.problem.isScalar_message
  have hpath : (Value.list ((Step.name "body" :: i.path).map Step.toValue)).IsJson .written :=
    Step.toValue_isJson (h.path.name (Text.isScalar_ofString "body"))
  have hlabels {fields : List (String × Value)} :
      ∀ field ∈ fields, JsonLeaves.written.word (Text.ofString field.1) :=
    fun field _ => Text.isScalar_ofString field.1
  rw [Envelope.errorOfIssue]
  rcases h.problem.context?_cases with hnone | ⟨name, x, hsome, hname, hx⟩
  · have hnames : [Text.ofString "type", Text.ofString "loc", Text.ofString "msg",
        Text.ofString "input"].Nodup := by decide
    rw [hnone]
    refine .record hnames hlabels ?_
    simp only [List.append_nil, List.forall_mem_cons]
    exact ⟨hcode, hpath, hmessage, h.input, nofun⟩
  · have hnames : [Text.ofString "type", Text.ofString "loc", Text.ofString "msg",
        Text.ofString "input", Text.ofString "ctx"].Nodup := by decide
    have hparticulars : (Value.dict (Record.entries [(name, .text x.display)])).IsJson .written :=
      .dict (List.nodup_singleton _) (List.forall_mem_singleton.mpr hname)
        (List.forall_mem_singleton.mpr (.text hx))
    rw [hsome]
    refine .record hnames hlabels ?_
    simp only [List.cons_append, List.nil_append, List.forall_mem_cons]
    exact ⟨hcode, hpath, hmessage, h.input, hparticulars, nofun⟩

/-- An issue with a value that can be written as it is. -/
theorem written {leaves : JsonLeaves} (h : i.Located leaves) (hinput : i.input.IsJson .written) :
    i.Located .written := ⟨h.problem, h.path, hinput⟩

end Issue.Located

namespace Refusal

variable {issues : List Issue} {id : Text}

theorem rejectedContent_isJson (h : ∀ i ∈ issues, i.Located .written) (hid : id.isScalar = true) :
    (rejectedContent issues id).IsJson .written := by
  have hdetails : (details issues).IsJson .written :=
    .list (List.forall_mem_map.mpr fun i hi => (h i hi).errorOfIssue_isJson)
  exact Envelope.failure_isJson (fun _ h => h) (.text (Text.isScalar_ofString _))
    (Text.isScalar_ofString "VALIDATION_ERROR") hdetails hid

/-- An answer to a rejected body that can be written shows only values that can be written. -/
theorem writable_input (h : Json.Writable (rejectedContent issues id)) :
    ∀ i ∈ issues, Json.Writable i.input := by
  intro i hi
  have herror : Json.Writable (.record [("code", "VALIDATION_ERROR"),
      ("message", "Unprocessable Entity"), ("details", details issues)]) :=
    Json.Writable.of_record h ("error", _) (.tail _ (.head _))
  have hdetails : Json.Writable (details issues) :=
    herror.of_record ("details", _) (.tail _ (.tail _ (.head _)))
  have hissue : Json.Writable (Envelope.errorOfIssue [.name "body"] i) :=
    hdetails.of_list _ (List.mem_map_of_mem hi)
  exact hissue.of_record ("input", i.input)
    (List.mem_append_left _ (.tail _ (.tail _ (.tail _ (.head _)))))

end Refusal

/-! ## Answers -/

theorem Body.read_rejected {maxDepth : Nat} {headers : Headers} {bytes : List UInt8}
    (hbytes : bytes ≠ []) {data : Value} (hcontent : content maxDepth headers bytes = .ok data)
    {issues : List Issue} (h : Request.readOr .notObject data = .error issues) :
    Body.read maxDepth headers bytes = .error (.rejected issues) := by
  have hfull : ¬ bytes.isEmpty = true := by simpa using hbytes
  rw [Body.read, if_neg hfull, hcontent]
  simp only [h]
  rfl

theorem Json.Fault.isScalar_message (fault : Fault) : fault.message.isScalar = true := by
  cases fault <;> exact Text.isScalar_ofString _

theorem Body.readJson_rejected {maxDepth : Nat} {bytes : List UInt8} {issues : List Issue}
    (h : readJson maxDepth bytes = .error (.rejected issues)) :
    ∃ fault position, issues = [jsonIssue fault position] := by
  unfold readJson at h
  cases htext : Json.textOf? bytes with
  | none => exact absurd (htext ▸ h) (by simp)
  | some text =>
      simp only [htext] at h
      cases hread : Json.read maxDepth text with
      | ok v => exact absurd (hread ▸ h) (by simp)
      | error e =>
          cases e with
          | malformed fault position =>
              simp only [hread, Except.error.injEq, BodyFault.rejected.injEq] at h
              exact ⟨fault, position, h.symm⟩
          | _ => exact absurd (hread ▸ h) (by simp)

/-- An issue with a body is one with a part of a JSON value, or one with bytes that are not said to
be JSON. -/
theorem Body.rejected_issue {maxDepth : Nat} {headers : Headers} {bytes : List UInt8}
    {issues : List Issue} (h : Body.read maxDepth headers bytes = .error (.rejected issues)) :
    ∀ i ∈ issues, i.Located .read ∨ i.input = .bytes bytes := by
  unfold Body.read at h
  split_ifs at h
  · obtain rfl := BodyFault.rejected.inj (Except.error.inj h)
    exact List.forall_mem_singleton.mpr (Or.inl ⟨trivial, .nil, .null⟩)
  cases hcontent : content maxDepth headers bytes with
  | error fault =>
      simp only [hcontent, Except.error.injEq] at h
      subst h
      have hjson : readJson maxDepth bytes = .error (.rejected issues) := by
        unfold content at hcontent
        split_ifs at hcontent
        exact hcontent
      obtain ⟨fault, position, rfl⟩ := readJson_rejected hjson
      refine List.forall_mem_singleton.mpr (Or.inl ⟨fault.isScalar_message, .index .nil, ?_⟩)
      exact .dict (r := []) List.nodup_nil nofun nofun
  | ok data =>
      simp only [hcontent] at h
      cases hread : Request.readOr .notObject data with
      | ok request =>
          rw [hread] at h
          exact absurd h nofun
      | error issues' =>
          rw [hread] at h
          obtain rfl := BodyFault.rejected.inj (Except.error.inj h)
          rcases Body.content_isRead hcontent with rfl | hdata
          · obtain rfl := Except.error.inj hread
            exact List.forall_mem_singleton.mpr (Or.inr rfl)
          · exact fun i hi => Or.inl (Request.readOr_locates hdata _ hread i hi)

/-- The answer to a rejected body can be written exactly if every value in question can be written
as it is. -/
theorem Body.rejectedContent_writable_iff {maxDepth : Nat} {headers : Headers}
    {bytes : List UInt8} {issues : List Issue}
    (h : Body.read maxDepth headers bytes = .error (.rejected issues)) {id : Text}
    (hid : id.isScalar = true) :
    Json.Writable (Refusal.rejectedContent issues id) ↔ ∀ i ∈ issues, i.input.IsJson .written := by
  constructor
  · intro hwritable i hi
    have hinput := Refusal.writable_input hwritable i hi
    rcases rejected_issue h i hi with hlocated | hbytes
    · exact (Json.writable_iff hlocated.input).mp hinput
    · -- bytes are shown as they are, and JSON has no bytes
      rw [hbytes] at hinput
      exact absurd hinput (Json.not_writable_bytes bytes)
  · intro hinputs
    refine Json.write_isOk (Refusal.rejectedContent_isJson (fun i hi => ?_) hid)
    rcases rejected_issue h i hi with hlocated | hbytes
    · exact hlocated.written (hinputs i hi)
    · exact absurd (hbytes ▸ hinputs i hi) nofun

namespace Dispatch

variable {σ : Type} (client : σ → ClientCall → Outcome × σ) (s : σ) (site : Site) (fresh : Text)
  (timing : Timing) (ctx : Context) (request : HttpRequest)

/-- A rejected body on either of the routes that read one. -/
theorem response_rejected {route : Route} (hroute : route = .search ∨ route = .compile)
    (hrouting : Routing.ofRequest request.method request.target = .found route)
    {issues : List Issue}
    (h : Body.read site.maxDepth request.headers request.body = .error (.rejected issues)) :
    response client s site fresh timing ctx request =
      leaving ctx (requestId fresh request.headers)
        (HttpResponse.json 422
          (Refusal.rejectedContent issues (requestId fresh request.headers))) := by
  have hserve : Endpoint.serve site (requestId fresh request.headers) request route =
      .done (.error (.rejected issues)) := by
    rcases hroute with rfl | rfl
    · simp only [Endpoint.serve, h]
      rfl
    · simp only [Endpoint.serve, h]
      rfl
  rw [(dispatch_found client s site fresh timing ctx request hrouting).2, hserve]
  rfl

/-- A content that has a JSON text leaves under its status. -/
theorem leaving_of_writable {content : Value} (h : Json.Writable content) (id : Text)
    (status : Int) :
    (leaving ctx id (HttpResponse.json status content)).Carries status content := by
  obtain ⟨body, hbody, hjson⟩ := h.response status
  rw [hjson]
  exact ⟨rfl, hbody⟩

/-- A content that has no JSON text is not answered. -/
theorem leaving_of_not_writable {content : Value} (h : ¬ Json.Writable content)
    (hctx : ctx.requestId.isScalar = true) (id : Text) (status : Int) :
    (leaving ctx id (HttpResponse.json status content)).Carries 500
      (Refusal.silentContent ctx.requestId) := by
  cases hjson : HttpResponse.json status content with
  | ok response => exact absurd (HttpResponse.json_eq_ok hjson) h
  | error failure => exact Refusal.unhandledResponse_carries hctx

end Dispatch

theorem HttpResponse.Carries.status_inj {response : HttpResponse} {status status' : Int}
    {content content' : Value} (h : response.Carries status content)
    (h' : response.Carries status' content') : status = status' :=
  StatusCode.number.inj (h.1.symm.trans h'.1)

/-- A body that says JSON stands for what its text is read as. -/
theorem Body.content_of_text {maxDepth : Nat} {bytes : List UInt8} (t : Text) {v : Value}
    (htext : Json.textOf? bytes = some t) (hread : Json.read maxDepth t = .ok v) :
    content maxDepth jsonHeaders bytes = .ok v := by
  have hjson : saysJson ((jsonHeaders.get? "content-type").getD []) = true := by decide
  rw [content, if_pos hjson, readJson, htext]
  simp only [hread]

/-- A compilation of a body that says JSON. -/
def compilationOf (body : List UInt8) : HttpRequest :=
  ⟨"POST", Target.ofText "/api/products/search/compile", jsonHeaders, body⟩

theorem compilationOf_arrived (body : List UInt8) : (compilationOf body).Arrived := by
  refine ⟨⟨"/api/products/search/compile", rfl⟩, ?_⟩
  have hbytes : (jsonHeaders.all fun header => header.2.all fun c => c.val < 0x100) = true := by
    decide
  simpa [compilationOf] using hbytes

theorem compilationOf_routed (body : List UInt8) :
    Routing.ofRequest (compilationOf body).method (compilationOf body).target =
      .found .compile := by
  have hrouted : Routing.ofRequest "POST" (Target.ofText "/api/products/search/compile") =
      .found .compile := by decide
  exact hrouted

/-- What a compilation of a body is answered, whatever the engine would say. -/
def compilationSeen (body : List UInt8) : HttpResponse :=
  Dispatch.response (constantClient foundObject) () someSite "r1" ⟨.ofInt 0, .ofInt 1⟩ .outside
    (compilationOf body)

/-- A body with a negative offset. -/
def negativeBody : List UInt8 := asciiBytes "\x7b\"from\":-1\x7d"

/-- The one issue with `negativeBody`. -/
def negativeIssue : Issue := ⟨.below 0, [.name "from"], .int (-1)⟩

/-- A body whose offset is not a number. -/
def nanBody : List UInt8 := asciiBytes "\x7b\"from\":NaN\x7d"

/-- The one issue with `nanBody`. -/
def nanIssue : Issue := ⟨.notFinite, [.name "from"], .float .nan⟩

end FacetSearch
