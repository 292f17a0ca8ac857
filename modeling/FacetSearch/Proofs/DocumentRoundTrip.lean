/-
# FacetSearch.Proofs.DocumentRoundTrip — a written document is read as the same document.

Reading and writing do not mirror each other: reading takes numbers of many kinds, two names for
the offset and null for a filter that is not there, while writing has one form for each of these.
What was read has no name twice in its dictionaries, and that is all it takes for the written form
to be read as the document it was written of, a filter without members included.
-/
import FacetSearch.Proofs.Construction
import FacetSearch.Proofs.Sections

namespace FacetSearch

open Validation

/-! ## Parts that were read -/

namespace Validation

variable {α : Type} {read : Value → Checked α}

theorem required_eq_ok {entries : Entries} {name : Text} {a : α}
    (h : required entries name read = .ok a) :
    ∃ v, Entries.get? entries name = some v ∧ read v = .ok a :=
  (field_eq_ok h).resolve_right nofun

theorem nullable_eq_some {v : Value} {a : α} (h : nullable read v = .ok (some a)) :
    read v = .ok a := by
  cases v with
  | null => exact absurd h (by simp [nullable])
  | _ => simpa [nullable, Checked.map_eq_ok_iff] using h

/-- A dictionary that was read has no name twice. -/
theorem record_nodup {v : Value} {r : Record} (h : record v = .ok r) : (r.map Prod.fst).Nodup := by
  obtain ⟨_, pairs, -, rfl, -⟩ := dictOf_eq_ok_iff.mp h
  exact collectNamed_nodup pairs

end Validation

theorem SortEntry.record_of_read {v : Value} {r : Record} (h : read v = .ok (.record r)) :
    Validation.record v = .ok r := by
  unfold read at h
  split at h
  · exact absurd h (by simp)
  · rename_i hrecord
    rw [← SortEntry.record.inj (Except.ok.inj h)]
    exact Checked.under_eq_ok_iff.mp hrecord
  · exact absurd h nofun

namespace Document

/-- Whatever is accepted as a document is a dictionary that offers its parts. -/
theorem accepted {data : Value} {d : Document} (h : Document.read data = .ok d) :
    ∃ entries, data = .dict entries ∧ Accepted entries d := by
  cases data with
  | dict entries =>
      refine ⟨entries, rfl, ?_⟩
      have hread : ofEntries entries = .ok d := h
      simp only [ofEntries, Checked.ap_eq_ok_iff] at hread
      -- six parts, each joined to what was read before it
      obtain ⟨_, _, ⟨_, _, ⟨_, _, ⟨_, _, ⟨_, _, ⟨_, _, hmk, minScore, rfl⟩, query, rfl⟩, filter,
        rfl⟩, sort, rfl⟩, offset, rfl⟩, aggregations, rfl⟩ := hread
      obtain rfl := Except.ok.inj hmk
      exact ⟨minScore, query, filter, sort, offset, aggregations⟩
  | _ => exact absurd h (by simp [Document.read, Checked.fail])

/-- No dictionary of a document that was read has a name twice. -/
theorem Accepted.distinctNames {entries : Entries} {d : Document} (h : Accepted entries d) :
    d.DistinctNames where
  query := by
    obtain ⟨v, -, hv⟩ := required_eq_ok h.query
    exact record_nodup hv
  filter := by
    intro filter hfilter
    have hread := h.filter
    rw [hfilter] at hread
    rcases field_eq_ok hread with ⟨v, -, hv⟩ | hnone
    · exact record_nodup (nullable_eq_some hv)
    · exact absurd hnone (by simp)
  sort := by
    obtain ⟨v, -, hv⟩ := required_eq_ok h.sort
    obtain ⟨xs, -, hall⟩ := listOf_eq_ok_iff.mp hv
    intro r hr
    generalize d.sort = entries at hall hr
    induction hall with
    | nil => exact absurd hr List.not_mem_nil
    | cons hentry _ ih =>
        rcases List.mem_cons.mp hr with rfl | hr
        · exact record_nodup (SortEntry.record_of_read hentry)
        · exact ih hr
  aggregations := by
    obtain ⟨v, -, hv⟩ := required_eq_ok h.aggregations
    exact record_nodup hv

end Document

/-! ## The written form -/

theorem Value.at?_name (entries : Entries) (name : Text) :
    (Value.dict entries).at? [name] = Entries.get? entries name := by
  rw [at?]
  cases Entries.get? entries name <;> rfl

namespace Document

/-- The names in the written form of a document, in order. -/
def bodyNames (d : Document) : List Text :=
  ["min_score", "query"] ++ (if d.filter.isSome then ["filter"] else []) ++
    ["sort", "from", "aggregations"]

variable (d : Document)

theorem toBody_query : d.toBody.at? ["query"] = some d.query.toValue := rfl

/-- The offset is written under one of its two names only. -/
theorem toBody_otherOffset : d.toBody.at? ["from_"] = none := by
  unfold toBody
  cases d.filter <;> rfl

/-- A document is written as a dictionary with these names. -/
theorem exists_bodyEntries :
    ∃ entries, d.toBody = .dict entries ∧ entries.map Prod.fst = d.bodyNames.map Value.text := by
  refine ⟨_, rfl, ?_⟩
  unfold bodyNames
  cases d.filter <;> rfl

variable {d}

/-- What is written is accepted, part by part. -/
theorem DistinctNames.accepted (h : d.DistinctNames) {entries : Entries}
    (hbody : d.toBody = .dict entries) : Accepted entries d := by
  have hget {name : Text} {v : Option Value} (hat : d.toBody.at? [name] = v) :
      Entries.get? entries name = v := by
    rw [← hat, hbody, Value.at?_name]
  refine ⟨?_, ?_, ?_, ?_, ?_, ?_⟩
  · refine required_present (hget d.toBody_minScore) ?_
    rfl
  · exact required_present (hget d.toBody_query) (record_toValue h.query)
  · have hfilter := hget d.toBody_filter
    have hread := read_filterValue h.filter
    generalize d.filter = filter at hfilter hread ⊢
    cases filter with
    | none => exact field_absent hfilter _ _
    | some r => exact field_present hfilter hread _
  · exact required_present (hget d.toBody_sort) (read_sort h.sort)
  · rw [fieldEither]
    refine field_present (hget d.toBody_offset) ?_ _
    rfl
  · exact required_present (hget d.toBody_aggregations) (record_toValue h.aggregations)

/-- A document with distinct names is read back from its written form. -/
theorem DistinctNames.read_toBody (h : d.DistinctNames) : Document.read d.toBody = .ok d := by
  obtain ⟨entries, hbody, -⟩ := exists_bodyEntries d
  rw [hbody]
  exact (h.accepted hbody).read

/-- What it takes for a document to be read of anything. -/
theorem exists_read_iff : (∃ data, Document.read data = .ok d) ↔ d.DistinctNames := by
  constructor
  · rintro ⟨data, hread⟩
    obtain ⟨entries, -, haccepted⟩ := accepted hread
    exact haccepted.distinctNames
  · exact fun h => ⟨d.toBody, h.read_toBody⟩

/-- A document that is the same after writing and reading: written under the names that it should
have, the filter among them exactly if there is one and then as it is, and never the other name of
the offset. -/
structure DecodesBack (d : Document) : Prop where
  names : ∃ entries, d.toBody = .dict entries ∧
    entries.map Prod.fst = d.bodyNames.map Value.text
  filter : d.toBody.at? ["filter"] = d.filter.map Record.toValue
  otherOffset : d.toBody.at? ["from_"] = none
  read : Document.read d.toBody = .ok d

theorem DistinctNames.decodesBack (h : d.DistinctNames) : d.DecodesBack :=
  ⟨d.exists_bodyEntries, d.toBody_filter, d.toBody_otherOffset, h.read_toBody⟩

end Document

/-- **A written document is read as the same document.**  Whatever a document was read of, its
written form has the names it should have and is read as that document again, with the sort entries
in their order and of their kind.  Every document that is compiled is among these, whatever its
offset. -/
theorem document_decodes_back :
    (∀ (data : Value) (d : Document), Document.read data = .ok d → d.DecodesBack) ∧
      ∀ p : Params, (compile p).DecodesBack := by
  refine ⟨fun data d h => ?_, fun p => (compile_distinctNames p).decodesBack⟩
  exact (Document.exists_read_iff.mp ⟨data, h⟩).decodesBack

/-- Data for a document, with a truth value for the threshold, the offset under its other name and
a filter without members. -/
def looseDocumentData : Value :=
  .record [("min_score", .bool true), ("query", .record [("match_all", .dict [])]),
    ("filter", .dict []),
    ("sort", .tuple ["score", .record [("price", .record [("order", "asc")])]]),
    ("from_", .int (-20)), ("aggregations", .dict []), ("size", .int 10)]

/-- The document that is read of it. -/
def looseDocument : Document where
  minScore := .ofInt 1
  query := [("match_all", .dict [])]
  filter := some []
  sort := [.name "score", .record [("price", .record [("order", "asc")])]]
  offset := -20
  aggregations := []

theorem document_decodes_back_loose :
    Document.read looseDocumentData = .ok looseDocument ∧
      Document.read looseDocument.toBody = .ok looseDocument ∧
      looseDocument.toBody.at? ["filter"] = some (.dict []) := by
  have hread : Document.read looseDocumentData = .ok looseDocument := rfl
  obtain ⟨haccepted, -⟩ := document_decodes_back
  have hback := haccepted looseDocumentData looseDocument hread
  exact ⟨hread, hback.read, hback.filter⟩

end FacetSearch
