/-
# FacetSearch.Http.Dispatch — a request from its arrival to its answer.

A request enters the context under its own id, the one it brings or a fresh one.  Whatever comes of
it, exactly one access event tells of it before the context is left.  A failure that escaped is
answered after the context was left, so its answer and its event bear the id that was there before.

The order of these layers is that of the framework, and it is assumed here: refusals of the domain,
failures with a status and rejected bodies are answered inside of what binds the id and tells of the
request; whatever else escapes passes through it and is answered outside.
-/
import FacetSearch.Http.Context
import FacetSearch.Http.Endpoint
import FacetSearch.Numeric.Fixed

namespace FacetSearch.Dispatch

open Logging

/-- When a request arrived and when it was answered, in seconds. -/
structure Timing where
  start : Binary64
  finish : Binary64

/-- What a request ends with: its response, and the failure that escaped if one did. -/
structure Served where
  response : HttpResponse
  escaped : Option Failure

/-- The logger of the access events. -/
def accessLogger : Text := "uvicorn.access"

/-- The name of the header that carries the id of a request. -/
def idHeader : Text := "x-request-id"

/-- The id of a request: the one it brings unless that is empty, or else a fresh one. -/
def requestId (fresh : Text) (headers : Headers) : Text :=
  match headers.get? idHeader with
  | some [] => fresh
  | some id => id
  | none => fresh

/-- The milliseconds between two times. -/
def Timing.milliseconds (t : Timing) : Binary64 := (t.finish.sub t.start).mul (.ofInt 1000)

/-- The figures of a request that was answered with a status. -/
def access (timing : Timing) (request : HttpRequest) (status : StatusCode) : Access where
  method := request.method
  path := request.target.shownPath
  status := status
  duration := timing.milliseconds.roundPlaces 2

/-- The access event of a request. -/
def accessEvent (timing : Timing) (request : HttpRequest) (status : StatusCode) : Event where
  level := Level.info
  logger := accessLogger
  message := request.method ++ " " ++ request.target.shownPath ++ " " ++ status.toValue.display ++
    " " ++ timing.milliseconds.fixedText 2 ++ "ms"
  failure := none
  access := some (access timing request status)

/-- An event as it is said in a context. -/
def stamp (ctx : Context) (event : Event) : Entry := ⟨event, ctx.requestId⟩

/-- Says events one after another. -/
def sayAll {κ : Type} : List Event → Exchange κ Event Unit
  | [] => .done ()
  | event :: rest => .say event (sayAll rest)

/-- Handles a request inside its context: what was refused is answered unless it escapes. -/
def inside (site : Site) (ctx : Context) (request : HttpRequest) :
    Exchange ClientCall Event (Except Failure HttpResponse) := do
  match ← Endpoint.handle site ctx.requestId request with
  | .ok response => return .ok response
  | .error refusal =>
    let address := request.target.address (Origin.ofHeaders site.host request.headers)
    let (events, response) := refusal.answer address ctx.requestId
    sayAll events
    return response

/-- The status that the access event reports: that of the response, or 500 if a failure escaped. -/
def reportedStatus : Except Failure HttpResponse → StatusCode
  | .ok response => response.status
  | .error _ => .number 500

/-- Answers outside the context of the request. -/
def outside (ctx : Context) (id : Text) :
    Except Failure HttpResponse → Exchange ClientCall Entry Served
  | .ok response => .done ⟨response.withHeader idHeader id, none⟩
  | .error failure =>
    .say (stamp ctx (Refusal.unhandledEvent failure))
      (.done ⟨Refusal.unhandledResponse ctx.requestId, some failure⟩)

/-- A request from its arrival to its answer, together with the context that it leaves behind. -/
def dispatch (site : Site) (fresh : Text) (timing : Timing) (ctx : Context)
    (request : HttpRequest) : Exchange ClientCall Entry (Served × Context) := do
  let id := requestId fresh request.headers
  let (within, token) := ctx.enter id
  let response ← (inside site within request).mapEvents (stamp within)
  Exchange.saying (stamp within (accessEvent timing request (reportedStatus response)))
  let after := within.leave token
  let served ← outside after id response
  return (served, after)

end FacetSearch.Dispatch
