/-
# FacetSearch.Proofs.StrictDocument — when a compiled document is strict JSON.

Standard JSON has no word for infinity.  The prices of an accepted body are decimals of any size,
and they are compared as such; only then do the ends of the range become doubles.  A document is
strict JSON exactly if this makes no end infinite, and exactly then is it answered as it is.
-/
import FacetSearch.Proofs.AcceptedBody
import FacetSearch.Proofs.Overflow
import FacetSearch.Proofs.Sections

namespace FacetSearch

/-- The leaves of strict JSON: every number is finite. -/
def JsonLeaves.strict : JsonLeaves := ⟨fun _ => True, fun x => x.isFinite = true, fun _ => True⟩

theorem isFinite_minScore : minScore.isFinite = true := by decide

theorem JsonLeaves.strict_usual : JsonLeaves.strict.Usual :=
  ⟨fun _ => trivial, isFinite_minScore, fun _ _ => trivial⟩

theorem JsonLeaves.written_usual : JsonLeaves.written.Usual :=
  ⟨fun _ => trivial, isFinite_minScore, fun _ => id⟩

/-! ## The ends of a price range -/

/-- Both ends are finite numbers. -/
structure PriceRange.Finite (range : PriceRange) : Prop where
  low : range.low.isFinite = true
  high : range.high.isFinite = true

/-- A range that is in effect has finite ends exactly if both prices are below the bound of the
doubles. -/
theorem PriceRange.finite_iff (min max : Option Decimal) :
    (∀ range, ofPrices min max = some range → range.Finite) ↔
      ∀ low high, min = some low → max = some high → low.value < high.value →
        |low.value| < Binary64.overflowBound ∧ |high.value| < Binary64.overflowBound := by
  constructor
  · rintro h low high rfl rfl hlt
    have hrange : ofPrices (some low) (some high) = some ⟨low.toBinary64, high.toBinary64⟩ :=
      if_pos ((Decimal.lt_iff low high).mpr hlt)
    obtain ⟨hlow, hhigh⟩ := h _ hrange
    exact ⟨low.isFinite_toBinary64_iff.mp hlow, high.isFinite_toBinary64_iff.mp hhigh⟩
  · intro h range hrange
    rcases min with _ | low <;> rcases max with _ | high
    · exact absurd hrange nofun
    · exact absurd hrange nofun
    · exact absurd hrange nofun
    · rw [ofPrices] at hrange
      split_ifs at hrange with hlt
      obtain rfl := Option.some.inj hrange
      obtain ⟨hlow, hhigh⟩ := h low high rfl rfl ((Decimal.lt_iff low high).mp hlt)
      exact ⟨low.isFinite_toBinary64_iff.mpr hlow, high.isFinite_toBinary64_iff.mpr hhigh⟩

/-! ## Documents -/

/-- Whatever a path leads to in a JSON value is a JSON value. -/
theorem Value.IsJson.of_at? {leaves : JsonLeaves} {v : Value} (h : v.IsJson leaves)
    {path : List Text} {w : Value} (hat : v.at? path = some w) : w.IsJson leaves := by
  induction path generalizing v with
  | nil =>
      rw [Value.at?] at hat
      exact Option.some.inj hat ▸ h
  | cons name path ih =>
      cases v with
      | dict entries =>
          rw [Value.at?] at hat
          obtain ⟨member, hmember, hrest⟩ := Option.bind_eq_some_iff.mp hat
          exact ih (h.of_get? hmember) hrest
      | _ => exact absurd hat nofun

/-- The ends of a range stand at the leaves of its filter. -/
theorem PriceRange.numbers_of_toValue {leaves : JsonLeaves} {range : PriceRange}
    (h : range.toValue.IsJson leaves) : leaves.number range.low ∧ leaves.number range.high := by
  have hlow : range.toValue.at? ["range", Field.price.label, "gte"] = some (.float range.low) := rfl
  have hhigh : range.toValue.at? ["range", Field.price.label, "lte"] = some (.float range.high) :=
    rfl
  exact ⟨(h.of_at? hlow).number_of_float, (h.of_at? hhigh).number_of_float⟩

namespace Service

/-- The ends of the range in effect are the only numbers of a document that may be infinite. -/
theorem compile_strict_iff (p : Params) :
    (compile p).IsJson .strict ↔
      ∀ range, PriceRange.ofPrices p.priceMin p.priceMax = some range → range.Finite := by
  constructor
  · intro h range hrange
    have hfilter : (compile p).at? ["filter"] = some range.toValue :=
      (priceSection_eq p).trans (congrArg (Option.map PriceRange.toValue) hrange)
    obtain ⟨hlow, hhigh⟩ := PriceRange.numbers_of_toValue (h.of_at? hfilter)
    exact ⟨hlow, hhigh⟩
  · intro h
    have hadmitted : p.Admitted .strict :=
      ⟨fun _ _ => trivial, fun _ _ _ _ => trivial, fun _ _ => trivial,
        fun range hrange => ⟨(h range hrange).low, (h range hrange).high⟩⟩
    exact (compile_fits JsonLeaves.strict_usual hadmitted).json

end Service

/-! ## Accepted bodies -/

/-- The prices of a request that are in effect as a range are below the bound of the doubles. -/
def Request.PricesRepresentable (r : Request) : Prop :=
  ∀ low high, r.priceMin = some low → r.priceMax = some high → low.value < high.value →
    |low.value| < Binary64.overflowBound ∧ |high.value| < Binary64.overflowBound

/-- A document without surrogates is answered as it is exactly if it is strict JSON. -/
theorem Endpoint.compileAccepted_written_iff {r : Request} (htexts : r.HasTexts)
    (h : r.asParams.Spelled) {id : Text} (hid : id.isScalar = true) :
    (∃ body, Json.write .body
          (Envelope.success (Service.compile r.asParams) compileMessage (.text id)) = .ok body ∧
        compileAccepted id r = .ok (.ofJson (.number 200) body)) ↔
      (Service.compile r.asParams).IsJson .strict := by
  constructor
  · rintro ⟨body, hbody, -⟩
    have hadmitted := h.admitted JsonLeaves.scalar_usual fun _ _ => ⟨trivial, trivial⟩
    have hdocument := (Service.compile_fits JsonLeaves.scalar_usual hadmitted).json
    have henvelope := Envelope.success_isJson (fun _ h => h) hdocument
      (Text.isScalar_ofString "컴파일 성공") hid
    -- the answer was written, so the document in it has finite numbers only
    have hwritten := Json.leaves_of_write henvelope hbody
    have hdata : Entries.get? (Answer.successEntries (Service.compile r.asParams) compileMessage
        (.text id)) "data" = some (Service.compile r.asParams) := rfl
    refine (hwritten.of_get? hdata).mono ?_ ?_ ?_
    · exact fun _ _ => trivial
    · exact fun _ h => h
    · exact fun _ _ => trivial
  · intro hstrict
    have hfinite := (Service.compile_strict_iff r.asParams).mp hstrict
    have hadmitted := h.admitted JsonLeaves.written_usual fun range hrange =>
      ⟨(hfinite range hrange).low, (hfinite range hrange).high⟩
    obtain ⟨document, hdocument, hjson, hdeep⟩ :=
      Service.compile_record JsonLeaves.written_usual hadmitted
    obtain ⟨body, hbody, hrespond⟩ :=
      respond_written hjson hdeep (Text.isScalar_ofString "컴파일 성공") hid
    rw [compileAccepted_eq id htexts, hdocument]
    exact ⟨body, hbody, reply_ok hrespond⟩

/-- **A compiled document is strict JSON exactly if the prices in effect are below the bound of the
doubles.**  Data that a body accepts becomes parameters exactly if its property values have texts,
as those of JSON data always have.  Every number in the document for the parameters is finite if no
price of a range in effect is too large for a double.  The compile endpoint answers with the
document as it is in these cases and in no others, unless the data holds a surrogate. -/
theorem compiled_document_strict_iff {data : Value} {r : Request} (h : Request.read data = .ok r) :
    ((∃ p, r.toParams = .ok p) ↔ r.HasTexts) ∧ (data.IsRead → r.HasTexts) ∧
    ∀ p, r.toParams = .ok p →
      ((Service.compile p).IsJson .strict ↔ r.PricesRepresentable) ∧
      (data.IsJson .scalar → ∀ id : Text, id.isScalar = true →
        ((∃ body, Json.write .body
              (Envelope.success (Service.compile p) Endpoint.compileMessage (.text id)) = .ok body ∧
            Endpoint.compileAccepted id r = .ok (.ofJson (.number 200) body)) ↔
          r.PricesRepresentable)) := by
  refine ⟨?_, fun hdata => Request.hasTexts_of_read hdata h, ?_⟩
  · constructor
    · rintro ⟨p, hp⟩
      exact (Request.toParams_eq_ok_iff.mp hp).1
    · exact fun htexts => ⟨r.asParams, Request.toParams_eq htexts⟩
  · intro p hp
    obtain ⟨htexts, rfl⟩ := Request.toParams_eq_ok_iff.mp hp
    have hstrict : (Service.compile r.asParams).IsJson .strict ↔ r.PricesRepresentable :=
      (Service.compile_strict_iff r.asParams).trans (PriceRange.finite_iff r.priceMin r.priceMax)
    refine ⟨hstrict, fun hscalar id hid => ?_⟩
    have hspelled : r.asParams.Spelled := Request.asParams_spelled hscalar h
    exact (Endpoint.compileAccepted_written_iff htexts hspelled hid).trans hstrict

/-- Data that asks for a range of prices. -/
def pricedData : Value := .dict (Record.entries [("price_min", .int 10), ("price_max", "25.50")])

/-- The request that `pricedData` is read as. -/
def pricedRequest : Request :=
  ⟨0, none, some ⟨false, 10, 0⟩, some ⟨false, 2550, -2⟩, [], [], false, none⟩

theorem compiled_document_strict_priced :
    Request.read pricedData = .ok pricedRequest ∧
      (Service.compile pricedRequest.asParams).IsJson .strict ∧
      ∃ body, Endpoint.compileAccepted "-" pricedRequest = .ok (.ofJson (.number 200) body) := by
  have hread : Request.read pricedData = .ok pricedRequest :=
    Checked.eq_ok_of_toOption (by decide +kernel)
  have hprices : pricedRequest.PricesRepresentable := by
    intro low high hlow hhigh _
    obtain rfl := Option.some.inj hlow
    obtain rfl := Option.some.inj hhigh
    exact ⟨(Decimal.isFinite_toBinary64_iff _).mp (by decide +kernel),
      (Decimal.isFinite_toBinary64_iff _).mp (by decide +kernel)⟩
  have hdata : pricedData.IsJson .scalar := by
    refine .dict (by decide) ?_ (List.forall_mem_cons.mpr ⟨.int trivial, ?_⟩)
    · exact List.forall_mem_cons.mpr ⟨Text.isScalar_ofString _,
        List.forall_mem_singleton.mpr (Text.isScalar_ofString _)⟩
    · exact List.forall_mem_singleton.mpr (.text (Text.isScalar_ofString _))
  obtain ⟨-, -, hparams⟩ := compiled_document_strict_iff hread
  obtain ⟨hstrict, hanswered⟩ := hparams _ (Request.toParams_eq nofun)
  obtain ⟨body, -, hbody⟩ := (hanswered hdata "-" (Text.isScalar_ofString _)).mpr hprices
  exact ⟨hread, hstrict.mpr hprices, body, hbody⟩

/-- Data whose upper price is no double. -/
def vastData : Value := .dict (Record.entries [("price_min", "1"), ("price_max", "1e400")])

/-- The request that `vastData` is read as. -/
def vastRequest : Request :=
  ⟨0, none, some ⟨false, 1, 0⟩, some ⟨false, 1, 400⟩, [], [], false, none⟩

/-- A body is accepted, and yet its document is not strict JSON: the range in it has no end. -/
theorem vast_price_not_strict :
    Request.read vastData = .ok vastRequest ∧ vastRequest.toParams = .ok vastRequest.asParams ∧
      PriceRange.ofPrices vastRequest.priceMin vastRequest.priceMax =
        some ⟨.ofInt 1, .infinity false⟩ ∧
      ¬ (Service.compile vastRequest.asParams).IsJson .strict := by
  have hrange : PriceRange.ofPrices vastRequest.priceMin vastRequest.priceMax =
      some ⟨.ofInt 1, .infinity false⟩ := by decide +kernel
  refine ⟨Checked.eq_ok_of_toOption (by decide +kernel), Request.toParams_eq nofun, hrange, ?_⟩
  intro hstrict
  exact absurd ((Service.compile_strict_iff _).mp hstrict _ hrange).high (by decide)

end FacetSearch
