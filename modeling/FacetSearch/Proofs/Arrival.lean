/-
# FacetSearch.Proofs.Arrival — what is known of a request when it arrives.

A path is decoded with marks where it is no UTF-8, and a header is made of bytes, so neither the id
of a product nor the id of a request can hold a surrogate: whatever is said about them can be
written.
-/
import FacetSearch.Http.Dispatch
import FacetSearch.Proofs.Scalar

namespace FacetSearch

/-- A request as it is handed over: its target is read from a text, and every code point of a header
is a byte. -/
structure HttpRequest.Arrived (request : HttpRequest) : Prop where
  target : ∃ t, request.target = Target.ofText t
  headers : ∀ header ∈ request.headers, ∀ c ∈ header.2, c.val < 0x100

theorem Text.eq_append_of_dropLead? {lead t rest : Text} (h : dropLead? lead t = some rest) :
    t = lead ++ rest := by
  induction lead generalizing t with
  | nil => exact Option.some.inj h
  | cons a lead ih =>
      cases t with
      | nil => exact absurd h nofun
      | cons c t =>
          rw [dropLead?] at h
          split at h
          · next hac => rw [List.cons_append, hac, ih h]
          · exact absurd h nofun

/-- The id in a path is a part of the path. -/
theorem Route.subset_of_productId? {path id : Text} (h : productId? path = some id) :
    ∀ c ∈ id, c ∈ path := by
  rw [productId?] at h
  cases hlead : Text.dropLead? "/api/products/" path with
  | none => simp [hlead] at h
  | some rest =>
      simp only [hlead, Option.ite_none_left_eq_some] at h
      obtain rfl := Option.some.inj h.2
      rw [Text.eq_append_of_dropLead? hlead]
      exact fun c hc => List.mem_append_right _ hc

/-- A route is found only where there is no page. -/
theorem Routing.ofRoutes_of_found {method : Text} {target : Target} {route : Route}
    (h : ofRequest method target = .found route) : ofRoutes method target = .found route := by
  rw [ofRequest] at h
  cases hpage : Page.ofPath? target.path with
  | none => simpa only [hpage] using h
  | some p =>
      simp only [hpage] at h
      split at h <;> exact absurd h nofun

theorem Routing.productId?_of_found {method : Text} {target : Target} {id : Text}
    (h : ofRequest method target = .found (.product id)) :
    Route.productId? target.path = some id := by
  have hmem : Route.product id ∈ Route.ofPath target.path := by
    replace h := ofRoutes_of_found h
    rw [ofRoutes] at h
    cases hfind : (Route.ofPath target.path).find? fun route => route.method = method with
    | none =>
        simp only [hfind] at h
        split at h
        · exact absurd h nofun
        · split at h <;> exact absurd h nofun
    | some route =>
        simp only [hfind] at h
        obtain rfl := Routing.found.inj h
        exact List.mem_of_find?_eq_some hfind
  rcases List.mem_append.mp hmem with hfixed | hproduct
  · obtain ⟨entry, hentry, heq⟩ := List.mem_map.mp hfixed
    have hnamed := List.mem_of_mem_filter hentry
    simp only [List.mem_cons, List.not_mem_nil, or_false] at hnamed
    rcases hnamed with rfl | rfl | rfl <;> exact absurd heq nofun
  · rw [Option.mem_toList, Option.map_eq_some_iff] at hproduct
    obtain ⟨id', hid, heq⟩ := hproduct
    rw [hid, Route.product.inj heq]

namespace HttpRequest.Arrived

variable {request : HttpRequest} (arrived : request.Arrived)

include arrived

/-- The id of a request holds no surrogate if a fresh one does not. -/
theorem isScalar_requestId {fresh : Text} (hfresh : fresh.isScalar = true) :
    (Dispatch.requestId fresh request.headers).isScalar = true := by
  rw [Dispatch.requestId]
  split
  · exact hfresh
  · next id _ hget =>
      obtain ⟨header, hfind, rfl⟩ := Option.map_eq_some_iff.mp hget
      apply Text.isScalar_iff.mpr
      intro c hc
      have hbyte := arrived.headers header (List.mem_of_find?_eq_some hfind) c hc
      exact CodePoint.isSurrogate_eq_false_iff.mpr (Or.inl (by omega))
  · exact hfresh

/-- The id of a product that is asked for holds no surrogate. -/
theorem isScalar_productId {id : Text}
    (h : Routing.ofRequest request.method request.target = .found (.product id)) :
    id.isScalar = true := by
  obtain ⟨t, ht⟩ := arrived.target
  have hid := Routing.productId?_of_found h
  rw [ht] at hid
  exact Text.isScalar_of_subset (Target.isScalar_path t) (Route.subset_of_productId? hid)

end HttpRequest.Arrived

end FacetSearch
