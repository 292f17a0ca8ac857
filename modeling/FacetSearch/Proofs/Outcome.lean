/-
# FacetSearch.Proofs.Outcome — how the outcome of a call is answered.

An object that JSON can spell is handed on as it is.  Any other value becomes its plain form, or
else a failure; and a failure that no handler answers gets status 500 and not a word about its
cause.
-/
import FacetSearch.Proofs.Answering
import FacetSearch.Proofs.Playing

namespace FacetSearch

/-! ## Answers -/

/-- A response has a status, and its body is the JSON text of a content. -/
def HttpResponse.Carries (response : HttpResponse) (status : Int) (content : Value) : Prop :=
  response.status = .number status ∧ Json.write .body content = .ok response.body

/-- The content of the answer to a failure about which nothing is said. -/
def Refusal.silentContent (id : Text) : Value :=
  Envelope.failure "Internal server error" "INTERNAL_ERROR" .null (.text id)

/-- The content of the answer to a refusal of the domain. -/
def Refusal.domainContent (message code id : Text) : Value :=
  Envelope.failure (.text message) (.text code) .null (.text id)

theorem Refusal.answer_of_escapes {failure : Failure} (h : failure.Escapes) (address id : Text) :
    Refusal.answer address id (.failed failure) = ([], .error failure) := by
  obtain ⟨hdomain, hstatus⟩ := h
  cases failure with
  | status code detail => exact absurd rfl (hstatus code detail)
  | domain args => exact absurd hdomain (by simp [Failure.isDomain])
  | resourceNotFound resource message cause => exact absurd hdomain (by simp [Failure.isDomain])
  | invalidInput message => exact absurd hdomain (by simp [Failure.isDomain])
  | _ => rfl

theorem Refusal.unhandledResponse_carries {id : Text} (hid : id.isScalar = true) :
    (Refusal.unhandledResponse id).Carries 500 (Refusal.silentContent id) := by
  obtain ⟨body, hbody, hjson⟩ := HttpResponse.json_isOk
    (Envelope.failure_written (Text.isScalar_ofString "INTERNAL_ERROR")
      (Text.isScalar_ofString "Internal server error") hid) 500
  have hsilent : HttpResponse.json 500 (Envelope.failure "Internal server error" "INTERNAL_ERROR"
      .null (.text id)) = .ok (.ofJson (.number 500) body) := hjson
  have hresponse : Refusal.unhandledResponse id = .ofJson (.number 500) body := by
    simp only [Refusal.unhandledResponse, hsilent]
  rw [hresponse]
  exact ⟨rfl, hbody⟩

namespace Dispatch

variable {ctx : Context} {address id : Text}

/-- A failure that escapes is answered with status 500. -/
theorem leaving_of_escapes {failure : Failure} (h : failure.Escapes)
    (hctx : ctx.requestId.isScalar = true) :
    (leaving ctx id (settled address id (.error (.failed failure)))).Carries 500
      (Refusal.silentContent ctx.requestId) := by
  have hsettled : settled address id (.error (.failed failure)) = .error failure :=
    congrArg Prod.snd (Refusal.answer_of_escapes h address id)
  rw [hsettled]
  exact Refusal.unhandledResponse_carries hctx

/-- A refusal of the domain is answered with its status and its code. -/
theorem leaving_of_domain {failure : Failure} (h : failure.isDomain = true)
    (hmessage : failure.message.isScalar = true) (hid : id.isScalar = true) :
    (leaving ctx id (settled address id (.error (.failed failure)))).Carries
      (Refusal.domainCode failure).1
      (Refusal.domainContent failure.message (Refusal.domainCode failure).2 id) := by
  have hcode : (Refusal.domainCode failure).2.isScalar = true := by
    cases failure <;> exact Text.isScalar_ofString _
  obtain ⟨body, hbody, hjson⟩ := HttpResponse.json_isOk
    (Envelope.failure_written hcode hmessage hid) (Refusal.domainCode failure).1
  have hsettled : settled address id (.error (.failed failure)) =
      Refusal.domainResponse failure id := by
    cases failure with
    | domain args => rfl
    | resourceNotFound resource message cause => rfl
    | invalidInput message => rfl
    | _ => exact absurd h (by simp [Failure.isDomain])
  have hresponse : Refusal.domainResponse failure id =
      .ok (.ofJson (.number (Refusal.domainCode failure).1) body) := hjson
  rw [hsettled, hresponse]
  exact ⟨rfl, hbody⟩

end Dispatch

/-! ## What an outcome becomes -/

/-- The leaves of what standard JSON can say, surrogates or not. -/
def JsonLeaves.sent : JsonLeaves := ⟨ShortInteger, fun x => x.isFinite = true, fun _ => True⟩

/-- The leaves of what standard JSON can say without surrogates. -/
def JsonLeaves.spelled : JsonLeaves :=
  ⟨ShortInteger, fun x => x.isFinite = true, fun t => t.isScalar = true⟩

/-- How a response answers the outcome of a call, under the id of its request or, if a failure
escaped, under the id `outer` from outside of it. -/
structure Answers (message : Value) (id outer : Text) (outcome : Outcome)
    (response : HttpResponse) : Prop where
  object : ∀ r : Record, outcome = .ok (.dict r.entries) →
    (Value.dict r.entries).IsJson .spelled →
    (∀ member ∈ r, Json.nesting member.2 ≤ Json.maxNesting) →
    response.Carries 200 (Envelope.success (.dict r.entries) message (.text id))
  unwritable : ∀ r : Record, outcome = .ok (.dict r.entries) →
    (Value.dict r.entries).IsJson .sent →
    (∃ member ∈ r, Json.maxNesting < Json.nesting member.2 ∨ ¬ member.2.IsJson .spelled) →
    response.Carries 500 (Refusal.silentContent outer)
  noObject : ∀ v, outcome = .ok v →
    (∀ entries, v = .dict entries → ∃ entry ∈ entries, entry.1.Nameless) →
    response.Carries 500 (Refusal.silentContent outer)
  value : ∀ v, outcome = .ok v →
    (∃ r s, Validation.record v = .ok r ∧ Json.plainRecord? r = some s ∧
      response.Carries 200 (Envelope.success (.dict s.entries) message (.text id))) ∨
    response.Carries 500 (Refusal.silentContent outer)
  failure : ∀ failure, outcome = .error failure → failure.Escapes →
    response.Carries 500 (Refusal.silentContent outer)

/-- A member of an object that was sent has a plain form only if no surrogate is in it. -/
theorem plainRecord?_of_unwritable {r : Record} (h : (Value.dict r.entries).IsJson .sent)
    (hmember : ∃ member ∈ r, Json.maxNesting < Json.nesting member.2 ∨
      ¬ member.2.IsJson .spelled) : Json.plainRecord? r = none := by
  obtain ⟨member, hmem, hbad⟩ := hmember
  have hsent : member.2.IsJson .sent := (Value.isJson_dict_iff.mp h).2.2 member hmem
  cases hplain : Json.plainRecord? r with
  | none => rfl
  | some s =>
      obtain ⟨hshallow, w, hw⟩ := Json.mem_of_plainRecord? hplain member hmem
      -- having a plain form, the member is neither too deep nor does it hold a surrogate
      rcases hbad with hdeep | hspelled
      · exact absurd hshallow (Nat.not_le_of_lt hdeep)
      · exact absurd (Json.scalar_of_plain? hsent hw) hspelled

/-- What the service comes to is answered. -/
theorem answers_reply {ctx : Context} {address id : Text} {message : Text}
    (hmessage : message.isScalar = true) (hid : id.isScalar = true)
    (hctx : ctx.requestId.isScalar = true) (outcome : Outcome) :
    Answers (.text message) id ctx.requestId outcome
      (Dispatch.leaving ctx id
        (Dispatch.settled address id (Endpoint.reply (.text message) id outcome))) where
  object := by
    rintro r rfl hjson hdeep
    -- what has no surrogates and only finite numbers can be written as it is
    have hwritten : (Value.dict r.entries).IsJson .written := by
      refine Value.IsJson.mono ?_ ?_ ?_ hjson
      · exact fun _ _ => trivial
      · exact fun _ h => h
      · exact fun _ h => h
    obtain ⟨body, hbody, hrespond⟩ := Endpoint.respond_written hwritten hdeep hmessage hid
    rw [Endpoint.reply_ok hrespond]
    exact ⟨rfl, hbody⟩
  unwritable := by
    rintro r rfl hjson hmember
    have hplain := plainRecord?_of_unwritable hjson hmember
    have hnames := (Value.isJson_dict_iff.mp hjson).1
    rw [Endpoint.reply_error (Endpoint.respond_unwritable hnames hplain message id)]
    exact Dispatch.leaving_of_escapes (Failure.escapes_general _ _ _) hctx
  noObject := by
    rintro v rfl h
    obtain ⟨issues, hissues⟩ := Endpoint.respond_nameless h (.text message) id
    rw [Endpoint.reply_error hissues]
    exact Dispatch.leaving_of_escapes (Failure.escapes_invalid _ issues) hctx
  value := by
    rintro v rfl
    rcases Endpoint.respond_cases v message id with
      ⟨r, s, body, hr, hplain, hbody, hrespond⟩ | ⟨failure, hescapes, hrespond⟩
    · rw [Endpoint.reply_ok hrespond]
      exact Or.inl ⟨r, s, hr, hplain, rfl, hbody⟩
    · rw [Endpoint.reply_error hrespond]
      exact Or.inr (Dispatch.leaving_of_escapes hescapes hctx)
  failure := by
    rintro failure rfl h
    exact Dispatch.leaving_of_escapes h hctx

end FacetSearch
