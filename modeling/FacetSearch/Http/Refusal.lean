/-
# FacetSearch.Http.Refusal — how what went wrong is answered.

A rejected body, a refusal of the domain and a failure with a status have answers of their own.
Every other failure escapes: it is reported as unhandled and answered with status 500 and nothing
about its cause.  An answer that cannot be written escapes in the same way.
-/
import FacetSearch.Http.Body
import FacetSearch.Http.Envelope
import FacetSearch.Logging.Event

namespace FacetSearch

/-- Why a request has no success for an answer. -/
inductive Refusal where
  | rejected (issues : List Issue)
  | failed (failure : Failure)

namespace Refusal

open Logging

/-- The logger of what went wrong. -/
def logger : Text := "product_search.app.platform.errors"

/-- The failure of a body that could not be read at all. -/
def unreadableBody : Failure := .status (.int 400) (.text "There was an error parsing the body")

/-- The refusal of a body. -/
def ofBodyFault : BodyFault → Refusal
  | .unreadable => .failed unreadableBody
  | .rejected issues => .rejected issues

/-- The details of a rejected body: every issue under the path of the body. -/
def details (issues : List Issue) : Value :=
  .list (issues.map (Envelope.errorOfIssue [.name "body"]))

/-- The content of the answer to a rejected body. -/
def rejectedContent (issues : List Issue) (requestId : Text) : Value :=
  Envelope.failure "Unprocessable Entity" "VALIDATION_ERROR" (details issues) (.text requestId)

/-- The status and the code of a refusal of the domain. -/
def domainCode : Failure → Int × Text
  | .resourceNotFound .. => (404, "NOT_FOUND")
  | .invalidInput _ => (400, "INVALID_INPUT")
  | _ => (400, "SERVICE_ERROR")

/-- What is said about a refusal of the domain. -/
def domainEvent (failure : Failure) (address : Text) : Event :=
  .plain Level.warning logger
    ("Domain error: " ++ failure.message ++ " (" ++ (domainCode failure).2 ++ ") path=" ++ address)

/-- The answer to a refusal of the domain. -/
def domainResponse (failure : Failure) (requestId : Text) : Except Failure HttpResponse :=
  let (status, code) := domainCode failure
  HttpResponse.json status
    (Envelope.failure (.text failure.message) (.text code) .null (.text requestId))

/-- The answer to a failure with a status.  The content is written before the status is looked
at. -/
def statusResponse (code detail : Value) (requestId : Text) : Except Failure HttpResponse := do
  let body ← HttpResponse.jsonBody
    (Envelope.failure detail (.text ("HTTP_" ++ code.display)) .null (.text requestId))
  return HttpResponse.ofJson (← StatusCode.ofValue code) body

/-- What is said about a refusal, and its answer unless it escapes. -/
def answer (address requestId : Text) : Refusal → List Event × Except Failure HttpResponse
  | .rejected issues => ([], HttpResponse.json 422 (rejectedContent issues requestId))
  | .failed (.status code detail) => ([], statusResponse code detail requestId)
  | .failed failure =>
    if failure.isDomain then ([domainEvent failure address], domainResponse failure requestId)
    else ([], .error failure)

/-- What is said about a failure that escaped. -/
def unhandledEvent (failure : Failure) : Event :=
  .ofFailure Level.error logger "Unhandled exception" failure

/-- The answer when a failure escaped; it stays empty if the id could not be written. -/
def unhandledResponse (requestId : Text) : HttpResponse :=
  let content := Envelope.failure "Internal server error" "INTERNAL_ERROR" .null (.text requestId)
  match HttpResponse.json 500 content with
  | .ok response => response
  | .error _ => ⟨.number 500, [], []⟩

end Refusal

end FacetSearch
