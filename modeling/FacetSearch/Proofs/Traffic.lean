/-
# FacetSearch.Proofs.Traffic — what a request asks of the engine.

A search asks once, for the document that compiling shows for the same body; a look-up asks once,
for the id in the path, unless the id is blank; nothing else asks at all.  Whatever comes of the one
call is what the answer is about.
-/
import FacetSearch.Proofs.AcceptedBody
import FacetSearch.Proofs.Arrival
import FacetSearch.Proofs.Outcome

namespace FacetSearch

/-! ## Endpoints -/

/-- A product that is not there is told by its id. -/
theorem Searcher.message_missingProduct (productId : Text) :
    (missingProduct (.text productId)).message = "product " ++ productId ++ " not found" := rfl

namespace Endpoint

open Exchange (calls result)

variable {σ : Type} (client : σ → ClientCall → Outcome × σ) (s : σ) (index id : Text)

section Search

variable {r : Request} (h : r.HasTexts)

include h

/-- A search in its parts: it tells of the body, of the parameters and of the document, and asks. -/
theorem searchAccepted_eq :
    searchAccepted index id r =
      .say (requestEvent r) (.say (Service.searchEvent r.asParams)
        (.say (Service.bodyEvent (Service.compile r.asParams))
          (.ask (.search index (Service.compile r.asParams)) fun outcome =>
            .done (reply searchMessage id outcome)))) := by
  unfold searchAccepted
  rw [params_eq h]
  rfl

/-- A search asks once, and ends with what comes of it. -/
theorem searchAccepted_played :
    calls client s (searchAccepted index id r) = [.search index (Service.compile r.asParams)] ∧
      result client s (searchAccepted index id r) =
        reply searchMessage id (client s (.search index (Service.compile r.asParams))).1 := by
  rw [searchAccepted_eq index id h]
  exact ⟨rfl, rfl⟩

end Search

theorem isBlankId_text (t : Text) : Service.isBlankId (.text t) = .ok t.isBlank := by
  cases t <;> rfl

theorem product_of_blank {productId : Text} (h : productId.isBlank = true) :
    product index id productId = .done (reply productMessage id (.error Service.blankId)) := by
  have hget : Service.get (.text productId) = .done (.error Service.blankId) := by
    unfold Service.get
    rw [isBlankId_text, h]
  unfold product
  rw [hget]
  rfl

theorem product_of_not_blank {productId : Text} (h : productId.isBlank = false) :
    product index id productId =
      .say (Service.getEvent (.text productId)) (.ask (.get index (.text productId)) fun outcome =>
        ((Searcher.afterGet index (.text productId) outcome).bind .done).bind fun outcome =>
          .done (reply productMessage id outcome)) := by
  have hget : Service.get (.text productId) =
      .say (Service.getEvent (.text productId)) (.ask (.get (.text productId)) .done) := by
    unfold Service.get
    rw [isBlankId_text, h]
    rfl
  unfold product
  rw [hget]
  rfl

/-- What comes of a look-up. -/
def found (productId : Text) : Outcome → Outcome
  | .error (.engine .notFound _) => .error (Searcher.missingProduct (.text productId))
  | outcome => outcome

/-- Nothing else changes than that a product is not there. -/
theorem found_eq_self (productId : Text) {outcome : Outcome}
    (h : ∀ args, outcome ≠ .error (.engine .notFound args)) :
    found productId outcome = outcome := by
  unfold found
  split
  · next args => exact absurd rfl (h args)
  · rfl

/-- What is done after a look-up asks nothing more. -/
theorem afterGet_played (productId : Text) (outcome : Outcome) :
    calls client s (Searcher.afterGet index (.text productId) outcome) = [] ∧
      result client s (Searcher.afterGet index (.text productId) outcome) =
        found productId outcome := by
  unfold Searcher.afterGet
  split
  · exact ⟨rfl, rfl⟩
  · next hpresent =>
      rw [found_eq_self productId fun args hmissing => hpresent args hmissing]
      exact ⟨rfl, rfl⟩

/-- A look-up asks once, and ends with what was found. -/
theorem product_played {productId : Text} (h : productId.isBlank = false) :
    calls client s (product index id productId) = [.get index (.text productId)] ∧
      result client s (product index id productId) =
        reply productMessage id (found productId (client s (.get index (.text productId))).1) := by
  obtain ⟨hcalls, hresult⟩ := afterGet_played client (client s (.get index (.text productId))).2
    index productId (client s (.get index (.text productId))).1
  rw [product_of_not_blank index id h]
  refine ⟨?_, ?_⟩
  · simp only [Exchange.calls_say, Exchange.calls_ask, Exchange.calls_bind, Exchange.calls_done,
      hcalls, List.append_nil]
  · simp only [Exchange.result_say, Exchange.result_ask, Exchange.result_bind,
      Exchange.result_done, hresult]

end Endpoint

/-! ## The traffic of a request -/

namespace Endpoint

open Exchange (calls result)

variable {σ : Type} (client : σ → ClientCall → Outcome × σ) (s : σ) (site : Site) (id : Text)
  (request : HttpRequest)

theorem handle_found {route : Route}
    (h : Routing.ofRequest request.method request.target = .found route) :
    handle site id request = serve site id request route := by
  rw [handle, h]

/-- A route that is neither the search nor a product asks nothing. -/
theorem calls_handle_other
    (hsearch : Routing.ofRequest request.method request.target ≠ .found .search)
    (hproduct : ∀ productId,
      Routing.ofRequest request.method request.target ≠ .found (.product productId)) :
    calls client s (handle site id request) = [] := by
  rw [handle]
  cases hrouting : Routing.ofRequest request.method request.target with
  | page page => rfl
  | found route =>
      cases route with
      | health => rfl
      | search => exact absurd hrouting hsearch
      | compile =>
          show calls client s (serve site id request .compile) = []
          rw [serve]
          cases Body.read site.maxDepth request.headers request.body <;> rfl
      | product productId => exact absurd hrouting (hproduct productId)
  | methodNotAllowed => rfl
  | moved target => rfl
  | notFound => rfl

/-- A search whose body is rejected asks nothing. -/
theorem calls_search_rejected {fault : BodyFault}
    (h : Body.read site.maxDepth request.headers request.body = .error fault) :
    calls client s (serve site id request .search) = [] := by
  rw [serve, h]
  rfl

theorem serve_search {r : Request}
    (h : Body.read site.maxDepth request.headers request.body = .ok r) :
    serve site id request .search = searchAccepted site.index id r := by
  rw [serve, h]

/-- The compile endpoint replies with the document. -/
theorem serve_compile {r : Request}
    (h : Body.read site.maxDepth request.headers request.body = .ok r) :
    serve site id request .compile =
      .done (reply compileMessage id (.ok (Service.compile r.asParams))) := by
  rw [serve, h]
  exact congrArg Exchange.done (compileAccepted_eq id (Body.hasTexts_of_read h))

end Endpoint

namespace Dispatch

open Exchange (calls result)

variable {σ : Type} (client : σ → ClientCall → Outcome × σ) (s : σ) (site : Site) (fresh : Text)
  (timing : Timing) (ctx : Context) (request : HttpRequest)

/-- The response to a request when it is played. -/
def response : HttpResponse :=
  (result client s (dispatch site fresh timing ctx request)).1.response

/-- What is seen of a request on a route. -/
theorem dispatch_found {route : Route}
    (h : Routing.ofRequest request.method request.target = .found route) :
    calls client s (dispatch site fresh timing ctx request) =
        calls client s (Endpoint.serve site (requestId fresh request.headers) request route) ∧
      response client s site fresh timing ctx request =
        leaving ctx (requestId fresh request.headers)
          (settled (request.target.address (Origin.ofHeaders site.host request.headers))
            (requestId fresh request.headers)
            (result client s
              (Endpoint.serve site (requestId fresh request.headers) request route))) := by
  rw [← Endpoint.handle_found site (requestId fresh request.headers) request h]
  exact ⟨calls_dispatch client s site fresh timing ctx request,
    response_dispatch client s site fresh timing ctx request⟩

variable (hid : (requestId fresh request.headers).isScalar = true)
  (hctx : ctx.requestId.isScalar = true)

include hid hctx

/-- A search whose body is accepted. -/
theorem search_seen (h : Routing.ofRequest request.method request.target = .found .search)
    {r : Request} (hr : Body.read site.maxDepth request.headers request.body = .ok r) :
    calls client s (dispatch site fresh timing ctx request) =
        [.search site.index (Service.compile r.asParams)] ∧
      Answers Endpoint.searchMessage (requestId fresh request.headers) ctx.requestId
        (client s (.search site.index (Service.compile r.asParams))).1
        (response client s site fresh timing ctx request) := by
  -- what is seen of the request is what is seen of its endpoint, and that has one call
  obtain ⟨hcalls, hresponse⟩ := dispatch_found client s site fresh timing ctx request h
  rw [Endpoint.serve_search site _ request hr] at hcalls hresponse
  obtain ⟨hplayed, hresult⟩ :=
    Endpoint.searchAccepted_played client s site.index (requestId fresh request.headers)
      (Body.hasTexts_of_read hr)
  refine ⟨hcalls.trans hplayed, ?_⟩
  rw [hresponse, hresult]
  exact answers_reply (Text.isScalar_ofString _) hid hctx _

omit hctx in
/-- A look-up of nothing. -/
theorem product_seen_blank {productId : Text}
    (h : Routing.ofRequest request.method request.target = .found (.product productId))
    (hblank : productId.isBlank = true) :
    calls client s (dispatch site fresh timing ctx request) = [] ∧
      (response client s site fresh timing ctx request).Carries 400
        (Refusal.domainContent "product_id must not be blank" "INVALID_INPUT"
          (requestId fresh request.headers)) := by
  obtain ⟨hcalls, hresponse⟩ := dispatch_found client s site fresh timing ctx request h
  have hserve : Endpoint.serve site (requestId fresh request.headers) request
      (.product productId) = .done (Endpoint.reply Endpoint.productMessage
        (requestId fresh request.headers) (.error Service.blankId)) :=
    Endpoint.product_of_blank site.index _ hblank
  rw [hserve] at hcalls hresponse
  refine ⟨hcalls, ?_⟩
  rw [hresponse]
  have hdomain : Service.blankId.isDomain = true := rfl
  exact leaving_of_domain hdomain (Text.isScalar_ofString _) hid

/-- A look-up of something: what the client says is answered, but that nothing is there becomes a
missing product. -/
theorem product_seen {productId : Text} (hproductId : productId.isScalar = true)
    (h : Routing.ofRequest request.method request.target = .found (.product productId))
    (hblank : productId.isBlank = false) :
    calls client s (dispatch site fresh timing ctx request) = [.get site.index (.text productId)] ∧
      (∀ args, (client s (.get site.index (.text productId))).1 = .error (.engine .notFound args) →
        (response client s site fresh timing ctx request).Carries 404
          (Refusal.domainContent ("product " ++ productId ++ " not found") "NOT_FOUND"
            (requestId fresh request.headers))) ∧
      ((∀ args,
          (client s (.get site.index (.text productId))).1 ≠ .error (.engine .notFound args)) →
        Answers Endpoint.productMessage (requestId fresh request.headers) ctx.requestId
          (client s (.get site.index (.text productId))).1
          (response client s site fresh timing ctx request)) := by
  obtain ⟨hcalls, hresponse⟩ := dispatch_found client s site fresh timing ctx request h
  obtain ⟨hplayed, hresult⟩ :=
    Endpoint.product_played client s site.index (requestId fresh request.headers) hblank
  refine ⟨hcalls.trans hplayed, ?_, ?_⟩
  · intro args hmissing
    have hdomain : (Searcher.missingProduct (.text productId)).isDomain = true := rfl
    -- the id stands in the message, so it has to be one that can be written
    have hscalar : (Searcher.missingProduct (.text productId)).message.isScalar = true := by
      rw [Searcher.message_missingProduct]
      simp [hproductId]
    rw [hresponse, ← Searcher.message_missingProduct]
    show (leaving ctx _ (settled _ _ (result client s (Endpoint.product _ _ _)))).Carries 404 _
    rw [hresult, hmissing]
    exact leaving_of_domain hdomain hscalar hid
  · intro hpresent
    rw [hresponse]
    show Answers _ _ _ _ (leaving ctx _ (settled _ _ (result client s (Endpoint.product _ _ _))))
    rw [hresult, Endpoint.found_eq_self productId hpresent]
    exact answers_reply (Text.isScalar_ofString _) hid hctx _

end Dispatch

/-- A look-up of the product `p1`. -/
def lookUp : HttpRequest := ⟨"GET", Target.ofText "/api/products/p1", [], []⟩

theorem lookUp_arrived : lookUp.Arrived := ⟨⟨"/api/products/p1", rfl⟩, nofun⟩

theorem lookUp_routed :
    Routing.ofRequest lookUp.method lookUp.target = .found (.product "p1") := by
  decide

/-- A search for everything. -/
def searchAll : HttpRequest :=
  ⟨"POST", Target.ofText "/api/products/search", jsonHeaders, asciiBytes "\x7b\x7d"⟩

theorem searchAll_arrived : searchAll.Arrived := by
  refine ⟨⟨"/api/products/search", rfl⟩, ?_⟩
  -- looked at member by member: there are too many code points to try them all
  have hbytes : (jsonHeaders.all fun header => header.2.all fun c => c.val < 0x100) = true := by
    decide
  simpa [searchAll] using hbytes

/-- A client that answers every call with the same object. -/
def constantClient (r : Record) : Unit → ClientCall → Outcome × Unit :=
  fun _ _ => (.ok (.dict r.entries), ())

/-- What is seen of a request, alone and outside of any other. -/
def seen (request : HttpRequest) (r : Record) :
    Transcript ClientCall Logging.Entry (Dispatch.Served × Context) :=
  ((Dispatch.dispatch someSite "r1" ⟨.ofInt 0, .ofInt 1⟩ .outside request).run
    (constantClient r) ()).1

/-- An object with one member, which is true. -/
def foundObject : Record := [("found", .bool true)]

theorem lookUp_seen (r : Record) :
    (seen lookUp r).calls = [.get "products" "p1"] ∧
      Answers Endpoint.productMessage "r1" "-" (.ok (.dict r.entries))
        (seen lookUp r).result.1.response := by
  obtain ⟨hcalls, -, hanswers⟩ := Dispatch.product_seen (constantClient r) () someSite "r1"
    ⟨.ofInt 0, .ofInt 1⟩ .outside lookUp (Text.isScalar_ofString _) (Text.isScalar_ofString _)
    (Text.isScalar_ofString _) lookUp_routed (by decide)
  exact ⟨hcalls, hanswers nofun⟩

/-- Null in lists that stand in one another. -/
def nested : Nat → Value
  | 0 => .null
  | n + 1 => .list [nested n]

theorem nested_isJson {leaves : JsonLeaves} (n : Nat) : (nested n).IsJson leaves := by
  induction n with
  | zero => exact .null
  | succ n ih => exact .list (List.forall_mem_singleton.mpr ih)

theorem nesting_nested (n : Nat) : Json.nesting (nested n) = n + 1 := by
  induction n with
  | zero => rfl
  | succ n ih =>
      show max (Json.nesting (nested n)) 0 + 1 = n + 1 + 1
      rw [ih]
      omega

/-- An object with one member, which is deep. -/
def deepObject : Record := [("deep", nested 255)]

theorem deepObject_isJson {leaves : JsonLeaves} (h : leaves.word "deep") :
    (Value.dict deepObject.entries).IsJson leaves := by
  refine .dict (List.nodup_singleton _) ?_ ?_
  · exact List.forall_mem_singleton.mpr h
  · exact List.forall_mem_singleton.mpr (nested_isJson 255)

end FacetSearch
