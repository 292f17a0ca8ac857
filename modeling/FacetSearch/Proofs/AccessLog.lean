/-
# FacetSearch.Proofs.AccessLog — one access record for each request.

Inside a request nothing is said to the access log: every logger of the application writes to the
log of the application.  The one access event is said after the request was handled and before its
context is left, so whoever answers the request in the end, the record has the id of the request and
the status of its response.  Requests that are dispatched one after another in one context therefore
leave one record each, in order, and the context as it was.
-/
import FacetSearch.Logging.Config
import FacetSearch.Proofs.Playing
import FacetSearch.Proofs.Reading
import FacetSearch.Proofs.Saying

namespace FacetSearch

open Logging

/-! ## What is said inside a request -/

/-- An event belongs to the log of the application. -/
def ToApplication (event : Event) : Prop := Channel.ofLogger event.logger = .app

theorem Service.channel_logger : Channel.ofLogger logger = .app := by decide

theorem Searcher.channel_logger : Channel.ofLogger logger = .app := by decide

theorem Endpoint.channel_logger : Channel.ofLogger logger = .app := by decide

theorem Refusal.channel_logger : Channel.ofLogger logger = .app := by decide

theorem Service.search_saysOnly (p : Params) : (search p).SaysOnly ToApplication :=
  ⟨channel_logger, channel_logger, fun _ => trivial⟩

theorem Service.get_saysOnly (id : Value) : (get id).SaysOnly ToApplication := by
  unfold get
  cases isBlankId id with
  | error failure => exact trivial
  | ok blank =>
      cases blank with
      | true => exact trivial
      | false => exact ⟨channel_logger, fun _ => trivial⟩

theorem Searcher.answer_saysOnly (index : Text) (call : SearchCall) :
    (answer index call).SaysOnly ToApplication := by
  cases call with
  | search body => exact fun _ => trivial
  | get id =>
      intro outcome
      unfold afterGet
      split
      · exact ⟨channel_logger, trivial⟩
      · exact trivial

namespace Endpoint

variable (index id : Text)

theorem searchAccepted_saysOnly (accepted : Request) :
    (searchAccepted index id accepted).SaysOnly ToApplication := by
  have hsaying : (Exchange.saying (requestEvent accepted) : Exchange ClientCall Event Unit).SaysOnly
      ToApplication := ⟨channel_logger, trivial⟩
  unfold searchAccepted
  refine Exchange.saysOnly_bind hsaying fun _ => ?_
  cases params accepted with
  | error refusal => exact trivial
  | ok p =>
      have hsearch := Exchange.saysOnly_through (Service.search_saysOnly p)
        (Searcher.answer_saysOnly index)
      exact Exchange.saysOnly_bind hsearch fun _ => trivial

theorem product_saysOnly (product : Text) :
    (Endpoint.product index id product).SaysOnly ToApplication := by
  have hget := Exchange.saysOnly_through (Service.get_saysOnly (.text product))
    (Searcher.answer_saysOnly index)
  exact Exchange.saysOnly_bind hget fun _ => trivial

variable (site : Site) (request : HttpRequest)

theorem serve_saysOnly (route : Route) : (serve site id request route).SaysOnly ToApplication := by
  cases route with
  | health => exact trivial
  | search =>
      unfold serve
      cases Body.read site.maxDepth request.headers request.body with
      | error fault => exact trivial
      | ok accepted => exact searchAccepted_saysOnly site.index id accepted
  | compile =>
      unfold serve
      cases Body.read site.maxDepth request.headers request.body with
      | error fault => exact trivial
      | ok accepted => exact trivial
  | product p => exact product_saysOnly site.index id p

theorem handle_saysOnly : (handle site id request).SaysOnly ToApplication := by
  unfold handle
  cases Routing.ofRequest request.method request.target with
  | found route => exact serve_saysOnly id site request route
  | _ => exact trivial

end Endpoint

theorem Refusal.answer_saysOnly (address id : Text) (refusal : Refusal) :
    ∀ event ∈ (refusal.answer address id).1, ToApplication event := by
  unfold answer
  split
  · exact List.forall_mem_nil _
  · exact List.forall_mem_nil _
  · split
    · exact List.forall_mem_singleton.mpr channel_logger
    · exact List.forall_mem_nil _

namespace Dispatch

theorem sayAll_saysOnly {events : List Event} (h : ∀ event ∈ events, ToApplication event) :
    (sayAll events : Exchange ClientCall Event Unit).SaysOnly ToApplication := by
  induction events with
  | nil => exact trivial
  | cons event rest ih =>
      obtain ⟨hevent, hrest⟩ := List.forall_mem_cons.mp h
      exact ⟨hevent, ih hrest⟩

/-- Nothing that is said inside a request goes to the access log. -/
theorem inside_saysOnly (site : Site) (ctx : Context) (request : HttpRequest) :
    (inside site ctx request).SaysOnly ToApplication := by
  have hhandle := Endpoint.handle_saysOnly ctx.requestId site request
  refine Exchange.saysOnly_bind hhandle fun reply => ?_
  cases reply with
  | ok response => exact trivial
  | error refusal =>
      exact Exchange.saysOnly_bind (sayAll_saysOnly (refusal.answer_saysOnly _ _)) fun _ => trivial

/-! ## The records of one request -/

/-- What arrives: a request, the id generated for it, and when it is handled. -/
structure Arrival where
  request : HttpRequest
  fresh : Text
  timing : Timing

/-- The id of a request: the one it brings unless that is empty, or else the generated one. -/
def Arrival.id (a : Arrival) : Text := requestId a.fresh a.request.headers

/-- The exchange in which a request is handled in a context. -/
def Arrival.dispatch (site : Site) (ctx : Context) (a : Arrival) :
    Exchange ClientCall Entry (Served × Context) :=
  Dispatch.dispatch site a.fresh a.timing ctx a.request

/-- What is said outside of the context of a request. -/
def outsideEntries (ctx : Context) : Except Failure HttpResponse → List Entry
  | .ok _ => []
  | .error failure => [stamp ctx (Refusal.unhandledEvent failure)]

/-- The access entry of a request, as it is said under its id. -/
def accessEntry (a : Arrival) (response : Except Failure HttpResponse) : Entry :=
  stamp ⟨a.id⟩ (accessEvent a.timing a.request (reportedStatus response))

theorem reaches_outside {ctx ctx' after : Context} {id : Text} {entries : List Entry}
    {response : Except Failure HttpResponse} {served' : Served}
    (h : Exchange.Reaches ((outside ctx id response).bind fun served => .done (served, ctx'))
      entries (.done (served', after))) :
    entries = outsideEntries ctx response ∧ served' = served ctx id response ∧ after = ctx' := by
  cases response with
  | ok response =>
      cases h with
      | refl => exact ⟨rfl, rfl, rfl⟩
  | error failure =>
      cases h with
      | say hdone =>
          cases hdone with
          | refl => exact ⟨rfl, rfl, rfl⟩

/-- A request that was served said what it said inside, then its access entry, and then what is
said outside; and it left the context as it was. -/
theorem reaches_dispatch {site : Site} {ctx after : Context} {a : Arrival} {entries : List Entry}
    {served' : Served} (h : Exchange.Reaches (a.dispatch site ctx) entries
      (.done (served', after))) :
    ∃ said response, Exchange.Reaches (inside site ⟨a.id⟩ a.request) said (.done response) ∧
      entries = said.map (stamp ⟨a.id⟩) ++ accessEntry a response :: outsideEntries ctx response ∧
      served' = served ctx a.id response ∧ after = ctx := by
  rw [Arrival.dispatch, dispatch_eq] at h
  obtain ⟨first, second, response, rfl, hfirst, hsecond⟩ := h.of_bind
  obtain ⟨said, rfl, hsaid⟩ := hfirst.of_mapEvents
  cases hsecond with
  | say houtside =>
      obtain ⟨rfl, hserved, hafter⟩ := reaches_outside houtside
      exact ⟨said, response, hsaid, rfl, hserved, hafter⟩

end Dispatch

/-! ## What the access log gets -/

namespace Logging.Config

/-- The entries that the access log gets of what was said. -/
def accessEntries (c : Config) (entries : List Entry) : List Entry :=
  entries.filter fun e =>
    c.isEnabled e.event.level && decide (Channel.ofLogger e.event.logger = .access)

variable {c : Config}

theorem accessEntries_append (first second : List Entry) :
    c.accessEntries (first ++ second) = c.accessEntries first ++ c.accessEntries second :=
  List.filter_append ..

theorem accessEntries_of_application {entries : List Entry}
    (h : ∀ e ∈ entries, ToApplication e.event) : c.accessEntries entries = [] := by
  refine List.filter_eq_nil_iff.mpr fun e he => ?_
  have happ : Channel.ofLogger e.event.logger = .app := h e he
  simp [happ]

end Logging.Config

namespace Dispatch

/-- An entry tells of a request and of what it was served: by the access logger, under the id of
the request, with the status that was sent, which is 500 if a failure escaped. -/
structure TellsOf (entry : Entry) (a : Arrival) (served : Served) : Prop where
  logger : entry.event.logger = accessLogger
  requestId : ∀ created trace,
    (LogRecord.ofEntry created trace entry).requestId = some (.text a.id)
  status : ∀ created trace, (LogRecord.ofEntry created trace entry).extra? "status_code" =
    some served.response.status.toValue
  escaped : served.escaped ≠ none → served.response.status = .number 500

theorem unhandledResponse_status (id : Text) :
    (Refusal.unhandledResponse id).status = .number 500 := by
  unfold Refusal.unhandledResponse
  dsimp only
  split
  · next response hjson =>
      obtain ⟨body, -, rfl⟩ := Checked.map_eq_ok_iff.mp hjson
      rfl
  · rfl

/-- The status was guessed before the response was made, and rightly. -/
theorem reportedStatus_eq (ctx : Context) (id : Text) (response : Except Failure HttpResponse) :
    reportedStatus response = (served ctx id response).response.status := by
  cases response with
  | ok response => rfl
  | error failure => exact (unhandledResponse_status ctx.requestId).symm

theorem tellsOf_accessEntry (ctx : Context) (a : Arrival)
    (response : Except Failure HttpResponse) :
    TellsOf (accessEntry a response) a (served ctx a.id response) where
  logger := rfl
  requestId _ _ := rfl
  status created trace := by
    rw [← reportedStatus_eq]
    rfl
  escaped h := by
    cases response with
    | ok response => exact absurd rfl h
    | error failure => exact unhandledResponse_status ctx.requestId

/-- **A request that was served has one record in the access log**, which tells of it. -/
theorem accessEntries_of_reaches {c : Config} (hinfo : c.isEnabled Level.info = true)
    {site : Site} {ctx after : Context} {a : Arrival} {entries : List Entry} {served : Served}
    (h : Exchange.Reaches (a.dispatch site ctx) entries (.done (served, after))) :
    (∃ entry, c.accessEntries entries = [entry] ∧ TellsOf entry a served) ∧ after = ctx := by
  obtain ⟨said, response, hsaid, rfl, rfl, rfl⟩ := reaches_dispatch h
  refine ⟨⟨accessEntry a response, ?_, tellsOf_accessEntry after a response⟩, rfl⟩
  have hinside : c.accessEntries (said.map (stamp ⟨a.id⟩)) = [] := by
    refine Config.accessEntries_of_application (List.forall_mem_map.mpr ?_)
    exact hsaid.saysOnly (inside_saysOnly site ⟨a.id⟩ a.request)
  have houtside : c.accessEntries (outsideEntries after response) = [] := by
    refine Config.accessEntries_of_application ?_
    cases response with
    | ok response => exact List.forall_mem_nil _
    | error failure =>
        exact List.forall_mem_singleton.mpr Refusal.channel_logger
  have haccess : c.accessEntries [accessEntry a response] = [accessEntry a response] := by
    have hchannel : Channel.ofLogger accessLogger = .access := by decide
    refine List.filter_eq_self.mpr (List.forall_mem_singleton.mpr ?_)
    show (c.isEnabled Level.info && decide (Channel.ofLogger accessLogger = .access)) = true
    rw [hinfo, hchannel]
    rfl
  rw [← List.singleton_append, Config.accessEntries_append, Config.accessEntries_append, hinside,
    houtside, haccess]
  rfl

/-! ## Requests one after another -/

/-- Requests that are handled one after another in one context: what each is served, and the
context after it. -/
def inTurn (site : Site) :
    Context → List Arrival → Exchange ClientCall Entry (List (Served × Context))
  | _, [] => .done []
  | ctx, a :: rest =>
    (a.dispatch site ctx).bind fun ending =>
      (inTurn site ending.2 rest).bind fun endings => .done (ending :: endings)

/-- The requests leave one record each in the access log, in order, and the context as it was. -/
theorem accessEntries_inTurn {c : Config} (hinfo : c.isEnabled Level.info = true) {site : Site}
    {ctx : Context} {arrivals : List Arrival} {entries : List Entry}
    {endings : List (Served × Context)}
    (h : Exchange.Reaches (inTurn site ctx arrivals) entries (.done endings)) :
    (∀ ending ∈ endings, ending.2 = ctx) ∧
      (c.accessEntries entries).length = arrivals.length ∧
      List.Forall₂ (fun told ending => TellsOf told.1 told.2 ending.1)
        ((c.accessEntries entries).zip arrivals) endings := by
  induction arrivals generalizing entries endings with
  | nil =>
      cases h with
      | refl => exact ⟨List.forall_mem_nil _, rfl, .nil⟩
  | cons a rest ih =>
      obtain ⟨first, others, ⟨served, after⟩, rfl, hfirst, hothers⟩ := Exchange.Reaches.of_bind h
      obtain ⟨second, last, tail, rfl, hsecond, hlast⟩ := hothers.of_bind
      cases hlast with
      | refl =>
          obtain ⟨⟨entry, hentry, htells⟩, rfl⟩ := accessEntries_of_reaches hinfo hfirst
          obtain ⟨hcontexts, hlength, hall⟩ := ih hsecond
          rw [List.append_nil, Config.accessEntries_append, hentry]
          refine ⟨List.forall_mem_cons.mpr ⟨rfl, hcontexts⟩, ?_, ?_⟩
          · simp [hlength]
          · exact .cons htells hall

end Dispatch

end FacetSearch
