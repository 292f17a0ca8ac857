/-
# FacetSearch.Proofs.Playing — what there is to see of an exchange that is played.

Playing an exchange that goes on with another plays the one and then the other, against a client
that has moved on in between.  Events are only told, so saying them in another form changes no call
and no result.  From these laws follows what is seen of a request: the calls are those of its
endpoint, and the response is what becomes of the endpoint's reply.
-/
import FacetSearch.Http.Dispatch

namespace FacetSearch

/-- A site like any other. -/
def someSite : Site := ⟨"products", "localhost", 950, fun _ => []⟩

namespace Exchange

variable {κ ε ε' α β σ : Type} (client : σ → κ → Outcome × σ)

/-- The calls that are made when an exchange is played. -/
def calls (s : σ) (x : Exchange κ ε α) : List κ := (x.run client s).1.calls

/-- What an exchange ends with when it is played. -/
def result (s : σ) (x : Exchange κ ε α) : α := (x.run client s).1.result

/-- The client after an exchange was played. -/
def after (s : σ) (x : Exchange κ ε α) : σ := (x.run client s).2

@[simp] theorem calls_done (s : σ) (a : α) : calls client s (.done a : Exchange κ ε α) = [] := rfl

@[simp] theorem result_done (s : σ) (a : α) :
    result client s (.done a : Exchange κ ε α) = a := rfl

@[simp] theorem calls_say (s : σ) (event : ε) (next : Exchange κ ε α) :
    calls client s (.say event next) = calls client s next := rfl

@[simp] theorem result_say (s : σ) (event : ε) (next : Exchange κ ε α) :
    result client s (.say event next) = result client s next := rfl

@[simp] theorem calls_ask (s : σ) (call : κ) (resume : Outcome → Exchange κ ε α) :
    calls client s (.ask call resume) =
      call :: calls client (client s call).2 (resume (client s call).1) := rfl

@[simp] theorem result_ask (s : σ) (call : κ) (resume : Outcome → Exchange κ ε α) :
    result client s (.ask call resume) =
      result client (client s call).2 (resume (client s call).1) := rfl

/-- The calls of the first part come before those of the second. -/
theorem calls_bind (s : σ) (x : Exchange κ ε α) (f : α → Exchange κ ε β) :
    calls client s (x.bind f) =
      calls client s x ++ calls client (after client s x) (f (result client s x)) := by
  induction x generalizing s with
  | done a => rfl
  | say event next ih => exact ih s
  | ask call resume ih =>
      -- the rest goes on with the client as the call has left it
      show call :: calls client _ ((resume _).bind f) = call :: (_ ++ _)
      rw [ih]
      rfl

theorem result_bind (s : σ) (x : Exchange κ ε α) (f : α → Exchange κ ε β) :
    result client s (x.bind f) = result client (after client s x) (f (result client s x)) := by
  induction x generalizing s with
  | done a => rfl
  | say event next ih => exact ih s
  | ask call resume ih => exact ih _ _

theorem calls_mapEvents (s : σ) (g : ε → ε') (x : Exchange κ ε α) :
    calls client s (x.mapEvents g) = calls client s x := by
  induction x generalizing s with
  | done a => rfl
  | say event next ih => exact ih s
  | ask call resume ih => exact congrArg (List.cons call) (ih _ _)

theorem result_mapEvents (s : σ) (g : ε → ε') (x : Exchange κ ε α) :
    result client s (x.mapEvents g) = result client s x := by
  induction x generalizing s with
  | done a => rfl
  | say event next ih => exact ih s
  | ask call resume ih => exact ih _ _

end Exchange

/-! ## A request -/

namespace Dispatch

open Exchange (calls result after)

variable {σ : Type} (client : σ → ClientCall → Outcome × σ) (s : σ)

/-- What becomes of the reply of an endpoint. -/
def settled (address id : Text) : Endpoint.Reply → Except Failure HttpResponse
  | .ok response => .ok response
  | .error refusal => (refusal.answer address id).2

/-- The response that leaves. -/
def leaving (ctx : Context) (id : Text) : Except Failure HttpResponse → HttpResponse
  | .ok response => response.withHeader idHeader id
  | .error _ => Refusal.unhandledResponse ctx.requestId

theorem calls_sayAll {κ : Type} {client : σ → κ → Outcome × σ} (events : List Logging.Event) :
    calls client s (sayAll events : Exchange κ Logging.Event Unit) = [] := by
  induction events with
  | nil => rfl
  | cons event rest ih => exact ih

theorem calls_inside (site : Site) (ctx : Context) (request : HttpRequest) :
    calls client s (inside site ctx request) =
      calls client s (Endpoint.handle site ctx.requestId request) := by
  show calls client s (Exchange.bind _ _) = _
  rw [Exchange.calls_bind]
  cases result client s (Endpoint.handle site ctx.requestId request) with
  | ok response => exact List.append_nil _
  | error refusal =>
      show _ ++ calls client _ (Exchange.bind _ _) = _
      rw [Exchange.calls_bind, calls_sayAll]
      exact List.append_nil _

theorem result_inside (site : Site) (ctx : Context) (request : HttpRequest) :
    result client s (inside site ctx request) =
      settled (request.target.address (Origin.ofHeaders site.host request.headers)) ctx.requestId
        (result client s (Endpoint.handle site ctx.requestId request)) := by
  show result client s (Exchange.bind _ _) = _
  rw [Exchange.result_bind]
  cases result client s (Endpoint.handle site ctx.requestId request) with
  | ok response => rfl
  | error refusal =>
      show result client _ (Exchange.bind _ _) = _
      rw [Exchange.result_bind]
      rfl

/-- A request in its parts. -/
theorem dispatch_eq (site : Site) (fresh : Text) (timing : Timing) (ctx : Context)
    (request : HttpRequest) :
    dispatch site fresh timing ctx request =
      ((inside site ⟨requestId fresh request.headers⟩ request).mapEvents
          (stamp ⟨requestId fresh request.headers⟩)).bind fun response =>
        .say (stamp ⟨requestId fresh request.headers⟩
            (accessEvent timing request (reportedStatus response)))
          ((outside ctx (requestId fresh request.headers) response).bind fun served =>
            .done (served, ctx)) := rfl

/-- **The calls of a request are those of its endpoint.** -/
theorem calls_dispatch (site : Site) (fresh : Text) (timing : Timing) (ctx : Context)
    (request : HttpRequest) :
    calls client s (dispatch site fresh timing ctx request) =
      calls client s (Endpoint.handle site (requestId fresh request.headers) request) := by
  rw [dispatch_eq, Exchange.calls_bind, Exchange.calls_mapEvents, calls_inside]
  cases Exchange.result client s ((inside site ⟨requestId fresh request.headers⟩ request).mapEvents
      (stamp ⟨requestId fresh request.headers⟩)) with
  | ok response => exact List.append_nil _
  | error failure => exact List.append_nil _

/-- What is served of a settled request. -/
def served (ctx : Context) (id : Text) : Except Failure HttpResponse → Served
  | .ok response => ⟨response.withHeader idHeader id, none⟩
  | .error failure => ⟨Refusal.unhandledResponse ctx.requestId, some failure⟩

/-- What a request ends with is what becomes of the reply of its endpoint. -/
theorem served_dispatch (site : Site) (fresh : Text) (timing : Timing) (ctx : Context)
    (request : HttpRequest) :
    (result client s (dispatch site fresh timing ctx request)).1 =
      served ctx (requestId fresh request.headers)
        (settled (request.target.address (Origin.ofHeaders site.host request.headers))
          (requestId fresh request.headers)
          (result client s (Endpoint.handle site (requestId fresh request.headers) request))) := by
  rw [dispatch_eq, Exchange.result_bind, Exchange.result_mapEvents, result_inside]
  cases settled (request.target.address (Origin.ofHeaders site.host request.headers))
      (requestId fresh request.headers)
      (result client s (Endpoint.handle site (requestId fresh request.headers) request)) with
  | ok response => rfl
  | error failure => rfl

/-- **The response of a request is what becomes of the reply of its endpoint.** -/
theorem response_dispatch (site : Site) (fresh : Text) (timing : Timing) (ctx : Context)
    (request : HttpRequest) :
    (result client s (dispatch site fresh timing ctx request)).1.response =
      leaving ctx (requestId fresh request.headers)
        (settled (request.target.address (Origin.ofHeaders site.host request.headers))
          (requestId fresh request.headers)
          (result client s (Endpoint.handle site (requestId fresh request.headers) request))) := by
  rw [served_dispatch]
  cases settled (request.target.address (Origin.ofHeaders site.host request.headers))
      (requestId fresh request.headers)
      (result client s (Endpoint.handle site (requestId fresh request.headers) request)) with
  | ok response => rfl
  | error failure => rfl

end Dispatch

end FacetSearch
