/-
# FacetSearch.Proofs.Correlation — which answers bear the id of their request.

Every envelope that is made inside the context of a request bears its id, and so does a header of
the response that leaves the context.  A failure that escapes is answered outside: without the
header, and under the id that was there before.  An answer therefore bears the id of its request
exactly if no failure escaped.
-/
import FacetSearch.Proofs.Rejection

namespace FacetSearch

/-- A response bears an id: the JSON object in it does, and a header does too. -/
structure HttpResponse.Correlated (response : HttpResponse) (id : Text) : Prop where
  envelope : ∃ entries, Json.write .body (.dict entries) = .ok response.body ∧
    Entries.get? entries "trace_id" = some (.text id)
  header : response.headers.get? Dispatch.idHeader = some id

/-- A response with a JSON object that bears an id. -/
def HttpResponse.Bears (response : HttpResponse) (id : Text) : Prop :=
  ∃ status body entries, response = .ofJson status body ∧
    Json.write .body (.dict entries) = .ok body ∧
    Entries.get? entries "trace_id" = some (.text id)

namespace HttpResponse

variable {response : HttpResponse} {id : Text}

theorem contentType_ne_idHeader : Text.lower "content-type" ≠ Dispatch.idHeader := by
  decide

theorem lower_idHeader : Dispatch.idHeader.lower = Dispatch.idHeader := by decide

theorem get?_ofJson (status : StatusCode) (body : Text) :
    (ofJson status body).headers.get? Dispatch.idHeader = none := by
  simp [Headers.get?, ofJson, contentType_ne_idHeader]

/-- The id of a request is added to what bears it already. -/
theorem Bears.correlated (h : response.Bears id) :
    (response.withHeader Dispatch.idHeader id).Correlated id := by
  obtain ⟨status, body, entries, rfl, hwrite, hget⟩ := h
  refine ⟨⟨entries, hwrite, hget⟩, ?_⟩
  simp [Headers.get?, ofJson, withHeader, contentType_ne_idHeader, lower_idHeader]

theorem bears_of_json {status : Int} {entries : Entries}
    (h : json status (.dict entries) = .ok response)
    (hget : Entries.get? entries "trace_id" = some (.text id)) : response.Bears id := by
  obtain ⟨body, hbody, rfl⟩ := Checked.map_eq_ok_iff.mp h
  exact ⟨_, body, entries, rfl, (jsonBody_eq_ok hbody).1, hget⟩

end HttpResponse

/-! ## Answers made inside the context -/

/-- An answer with a status has both a content that can be written and a status that is one. -/
theorem Refusal.statusResponse_eq_ok {code detail : Value} {id : Text} {response : HttpResponse}
    (h : statusResponse code detail id = .ok response) :
    ∃ number body, Json.write .body (Envelope.failure detail (.text ("HTTP_" ++ code.display)) .null
        (.text id)) = .ok body ∧
      StatusCode.ofValue code = .ok number ∧ response = .ofJson number body := by
  unfold statusResponse at h
  cases hbody : HttpResponse.jsonBody
      (Envelope.failure detail (.text ("HTTP_" ++ code.display)) .null (.text id)) with
  | error failure => exact absurd (hbody ▸ h) nofun
  | ok body =>
      cases hcode : StatusCode.ofValue code with
      | error failure =>
          rw [hbody, hcode] at h
          exact absurd h nofun
      | ok number =>
          rw [hbody, hcode] at h
          exact ⟨number, body, (HttpResponse.jsonBody_eq_ok hbody).1, rfl, (Except.ok.inj h).symm⟩

/-- The answer to a refusal bears the id of the request. -/
theorem Refusal.bears_of_answer {address id : Text} {refusal : Refusal} {response : HttpResponse}
    (h : (refusal.answer address id).2 = .ok response) : response.Bears id := by
  cases refusal with
  | rejected issues => exact HttpResponse.bears_of_json h rfl
  | failed failure =>
      cases failure with
      | status code detail =>
          obtain ⟨number, body, hbody, -, rfl⟩ := statusResponse_eq_ok h
          exact ⟨number, body, _, rfl, hbody, rfl⟩
      | domain args => exact HttpResponse.bears_of_json h rfl
      | resourceNotFound resource message cause => exact HttpResponse.bears_of_json h rfl
      | invalidInput message => exact HttpResponse.bears_of_json h rfl
      | _ => exact absurd h nofun

/-- The answer with data bears the id of the request. -/
theorem Endpoint.bears_of_reply {message id : Text} {outcome : Outcome} {response : HttpResponse}
    (h : reply (.text message) id outcome = .ok response) : response.Bears id := by
  cases outcome with
  | error failure => exact absurd h nofun
  | ok data =>
      rcases respond_cases data message id with
        ⟨r, s, body, -, -, hbody, hrespond⟩ | ⟨failure, -, hrespond⟩
      · rw [reply_ok hrespond] at h
        obtain rfl := Except.ok.inj h
        exact ⟨_, body, _, rfl, hbody, rfl⟩
      · rw [reply_error hrespond] at h
        exact absurd h nofun

/-- What came of the service is never a rejection. -/
theorem Endpoint.reply_ne_rejected {message : Value} {id : Text} (outcome : Outcome)
    {issues : List Issue} : reply message id outcome ≠ .error (.rejected issues) := by
  cases outcome with
  | error failure => exact nofun
  | ok data =>
      rw [reply]
      cases respond message id data with
      | ok response => simp [Except.mapError]
      | error failure => simp [Except.mapError]

namespace Endpoint

open Exchange (result)

variable {σ : Type} (client : σ → ClientCall → Outcome × σ) (s : σ) (site : Site) (id : Text)
  (request : HttpRequest)

/-- A product endpoint refuses its body, or replies to what came of the service. -/
theorem serve_played {route : Route} (h : route ≠ .health) :
    (∃ fault, Body.read site.maxDepth request.headers request.body = .error fault ∧
      result client s (serve site id request route) = .error (.ofBodyFault fault)) ∨
    ∃ message outcome,
      result client s (serve site id request route) = reply (.text message) id outcome := by
  cases route with
  | health => exact absurd rfl h
  | search =>
      cases hbody : Body.read site.maxDepth request.headers request.body with
      | error fault =>
          refine Or.inl ⟨fault, rfl, ?_⟩
          simp only [serve, hbody]
          rfl
      | ok r =>
          rw [serve_search site id request hbody]
          exact Or.inr ⟨_, _, (searchAccepted_played client s site.index id
            (Body.hasTexts_of_read hbody)).2⟩
  | compile =>
      cases hbody : Body.read site.maxDepth request.headers request.body with
      | error fault =>
          refine Or.inl ⟨fault, rfl, ?_⟩
          simp only [serve, hbody]
          rfl
      | ok r =>
          rw [serve_compile site id request hbody]
          exact Or.inr ⟨"컴파일 성공", .ok (Service.compile r.asParams), rfl⟩
  | product productId =>
      cases hblank : productId.isBlank with
      | true =>
          refine Or.inr ⟨"조회 성공", .error Service.blankId, ?_⟩
          show result client s (product site.index id productId) = _
          rw [product_of_blank site.index id hblank]
          rfl
      | false => exact Or.inr ⟨_, _, (product_played client s site.index id hblank).2⟩

end Endpoint

/-! ## Outcomes -/

theorem StatusCode.ofValue_int (n : Int) : ofValue (.int n) = .ok (.number n) := by
  simp [ofValue, Value.hashFault?, Value.less, Value.lessPlain, Value.number?, DecimalDatum.isNan]

namespace Refusal

variable {address id : Text} (hid : id.isScalar = true)

include hid

/-- A refusal of the domain is answered if its message can be written. -/
theorem answer_domain {failure : Failure} (h : failure.isDomain = true)
    (hmessage : failure.message.isScalar = true) :
    ∃ response, (answer address id (.failed failure)).2 = .ok response := by
  have hcode : (domainCode failure).2.isScalar = true := by
    cases failure <;> exact Text.isScalar_ofString _
  obtain ⟨body, -, hjson⟩ := HttpResponse.json_isOk
    (Envelope.failure_written hcode hmessage hid) (domainCode failure).1
  have hanswer : (answer address id (.failed failure)).2 = domainResponse failure id := by
    cases failure with
    | domain args => rfl
    | resourceNotFound resource message cause => rfl
    | invalidInput message => rfl
    | _ => exact absurd h nofun
  exact ⟨_, hanswer.trans hjson⟩

/-- A failure with a status is answered if its detail can be written. -/
theorem answer_status (n : Int) {detail : Value} (h : detail.IsJson .written) :
    ∃ response, (answer address id (.failed (.status (.int n) detail))).2 = .ok response := by
  have hcode : Text.isScalar ("HTTP_" ++ (Value.int n).display) = true :=
    Text.isScalar_append.mpr ⟨Text.isScalar_ofString _, Text.isScalar_ofInt n⟩
  obtain ⟨body, hbody, hscalar⟩ := Json.write_isOk
    (Envelope.failure_isJson (fun _ h => h) h hcode .null hid)
  refine ⟨.ofJson (.number n) body, ?_⟩
  show statusResponse (.int n) detail id = _
  rw [statusResponse, HttpResponse.jsonBody, hbody, StatusCode.ofValue_int]
  simp only [hscalar, if_true]
  rfl

/-- A rejection is answered exactly if every value in question can be written as it is. -/
theorem answer_rejected_iff {maxDepth : Nat} {headers : Headers} {bytes : List UInt8}
    {issues : List Issue} (h : Body.read maxDepth headers bytes = .error (.rejected issues)) :
    (∃ response, (answer address id (.rejected issues)).2 = .ok response) ↔
      ∀ i ∈ issues, i.input.IsJson .written := by
  rw [← Body.rejectedContent_writable_iff h hid]
  constructor
  · rintro ⟨response, hresponse⟩
    exact HttpResponse.json_eq_ok hresponse
  · intro hwritable
    obtain ⟨body, -, hjson⟩ := hwritable.response 422
    exact ⟨_, hjson⟩

end Refusal

namespace Dispatch

theorem escaped_eq_none_iff {ctx : Context} {id : Text} {settled : Except Failure HttpResponse} :
    (served ctx id settled).escaped = none ↔ ∃ response, settled = .ok response := by
  cases settled with
  | ok response => exact iff_of_true rfl ⟨response, rfl⟩
  | error failure => exact iff_of_false nofun nofun

/-- An answer from outside of the context has no header with an id. -/
theorem unhandledResponse_headers (id : Text) :
    (Refusal.unhandledResponse id).headers.get? idHeader = none := by
  simp only [Refusal.unhandledResponse]
  split
  · next response hjson =>
      obtain ⟨body, -, rfl⟩ := Checked.map_eq_ok_iff.mp hjson
      exact HttpResponse.get?_ofJson _ body
  · rfl

/-- What is served is correlated with the request exactly if it was settled inside. -/
theorem served_correlated_iff {ctx : Context} {id : Text} {settled : Except Failure HttpResponse}
    (h : ∀ response, settled = .ok response → response.Bears id) :
    (served ctx id settled).response.Correlated id ↔ (served ctx id settled).escaped = none := by
  cases settled with
  | ok response => exact iff_of_true (h response rfl).correlated rfl
  | error failure =>
      refine iff_of_false (fun hcorrelated => ?_) nofun
      exact absurd (hcorrelated.header.symm.trans (unhandledResponse_headers _)) nofun

open Exchange (result)

variable {σ : Type} (client : σ → ClientCall → Outcome × σ) (s : σ) (site : Site) (fresh : Text)
  (timing : Timing) (ctx : Context) (request : HttpRequest) {route : Route}
  (hrouting : Routing.ofRequest request.method request.target = .found route)

include hrouting

/-- What is served of a request on a route. -/
theorem served_found :
    (result client s (dispatch site fresh timing ctx request)).1 =
      served ctx (requestId fresh request.headers)
        (settled (request.target.address (Origin.ofHeaders site.host request.headers))
          (requestId fresh request.headers)
          (result client s
            (Endpoint.serve site (requestId fresh request.headers) request route))) := by
  rw [← Endpoint.handle_found site (requestId fresh request.headers) request hrouting]
  exact served_dispatch client s site fresh timing ctx request

/-- A failure that escapes is answered from outside. -/
theorem served_of_escapes {failure : Failure} (h : failure.Escapes)
    (hreply : result client s (Endpoint.serve site (requestId fresh request.headers) request
      route) = .error (.failed failure)) :
    (result client s (dispatch site fresh timing ctx request)).1 =
      ⟨Refusal.unhandledResponse ctx.requestId, some failure⟩ := by
  have hsettled (address id : Text) :
      settled address id (.error (.failed failure)) = .error failure :=
    congrArg Prod.snd (Refusal.answer_of_escapes h address id)
  rw [served_found client s site fresh timing ctx request hrouting, hreply, hsettled]
  rfl

end Dispatch

/-- A look-up of the product `p1` that brings an id. -/
def tracedLookUp : HttpRequest :=
  ⟨"GET", Target.ofText "/api/products/p1", [("x-request-id", "r5")], []⟩

theorem tracedLookUp_arrived : tracedLookUp.Arrived := by
  refine ⟨⟨"/api/products/p1", rfl⟩, ?_⟩
  have hbytes : (tracedLookUp.headers.all fun header => header.2.all fun c => c.val < 0x100) =
      true := by decide
  simpa using hbytes

theorem tracedLookUp_routed :
    Routing.ofRequest tracedLookUp.method tracedLookUp.target = .found (.product "p1") := by
  decide

theorem tracedLookUp_id : Dispatch.requestId "r1" tracedLookUp.headers = "r5" := by
  decide

/-- What comes of the look-up is what comes of its one call. -/
theorem tracedLookUp_played (client : Unit → ClientCall → Outcome × Unit) :
    Exchange.result client ()
        (Endpoint.serve someSite (Dispatch.requestId "r1" tracedLookUp.headers) tracedLookUp
          (.product "p1")) =
      Endpoint.reply Endpoint.productMessage "r5"
        (Endpoint.found "p1" (client () (.get "products" (.text "p1"))).1) := by
  rw [tracedLookUp_id]
  exact (Endpoint.product_played client () "products" "r5" (by decide)).2

/-- A fault of a general kind. -/
def boom : Failure := .general .runtime [.text "boom"] none

/-- A client whose every call fails. -/
def failingClient : Unit → ClientCall → Outcome × Unit := fun _ _ => (.error boom, ())

/-- What is served of the look-up when the client fails. -/
def servedOfFailing : Dispatch.Served :=
  (Exchange.result failingClient ()
    (Dispatch.dispatch someSite "r1" ⟨.ofInt 0, .ofInt 1⟩ .outside tracedLookUp)).1

end FacetSearch
