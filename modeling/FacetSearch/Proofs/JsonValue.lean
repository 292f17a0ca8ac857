/-
# FacetSearch.Proofs.JsonValue — the values that JSON can say.

JSON has null, truth values, numbers, texts, arrays and objects, and an object has distinct names.
`Value.IsJson` says so of a value, for whatever integers, numbers and texts are admitted at its
leaves, and whatever is read from a JSON text is such a value.
-/
import FacetSearch.Http.Body
import FacetSearch.Proofs.Reading
import Mathlib.Algebra.Group.Nat.Defs
import Mathlib.Data.List.Induction
import Mathlib.Data.List.TakeWhile

namespace FacetSearch

/-- The dictionary entries of named values. -/
def Record.entries (r : Record) : Entries := r.map fun (name, v) => (.text name, v)

/-- What may stand at the leaves of a JSON value. -/
structure JsonLeaves where
  integer : Int → Prop
  number : Binary64 → Prop
  word : Text → Prop

/-- A value that JSON can say, with the given leaves; an object has distinct names. -/
inductive Value.IsJson (leaves : JsonLeaves) : Value → Prop where
  | null : IsJson leaves .null
  | bool (b : Bool) : IsJson leaves (.bool b)
  | int {n : Int} (admitted : leaves.integer n) : IsJson leaves (.int n)
  | float {x : Binary64} (admitted : leaves.number x) : IsJson leaves (.float x)
  | text {t : Text} (admitted : leaves.word t) : IsJson leaves (.text t)
  | list {xs : List Value} (members : ∀ x ∈ xs, IsJson leaves x) : IsJson leaves (.list xs)
  | dict {r : Record} (distinct : (r.map Prod.fst).Nodup)
      (names : ∀ member ∈ r, leaves.word member.1)
      (members : ∀ member ∈ r, IsJson leaves member.2) : IsJson leaves (.dict r.entries)

/-- The leaves of a value that a JSON text may turn out to be: numbers need not be finite, and a
text may hold surrogates. -/
def JsonLeaves.read : JsonLeaves := ⟨ShortInteger, fun _ => True, fun _ => True⟩

/-- A value that a JSON text may turn out to be. -/
abbrev Value.IsRead : Value → Prop := Value.IsJson .read

theorem Value.IsJson.mono {leaves leaves' : JsonLeaves}
    (hinteger : ∀ n, leaves.integer n → leaves'.integer n)
    (hnumber : ∀ x, leaves.number x → leaves'.number x)
    (hword : ∀ t, leaves.word t → leaves'.word t) {v : Value} (h : v.IsJson leaves) :
    v.IsJson leaves' := by
  induction h with
  | null => exact .null
  | bool b => exact .bool b
  | int admitted => exact .int (hinteger _ admitted)
  | float admitted => exact .float (hnumber _ admitted)
  | text admitted => exact .text (hword _ admitted)
  | list _ ih => exact .list ih
  | dict distinct names _ ih => exact .dict distinct (fun m hm => hword _ (names m hm)) ih

theorem Value.IsJson.number_of_float {leaves : JsonLeaves} {x : Binary64}
    (h : (Value.float x).IsJson leaves) : leaves.number x := by
  cases h with
  | float admitted => exact admitted

theorem Record.entries_injective : Function.Injective Record.entries := by
  refine List.map_injective_iff.mpr ?_
  rintro ⟨n, v⟩ ⟨m, w⟩ h
  simpa using h

/-- What it takes for an object to be a JSON value. -/
theorem Value.isJson_dict_iff {leaves : JsonLeaves} {r : Record} :
    (Value.dict r.entries).IsJson leaves ↔ (r.map Prod.fst).Nodup ∧
      (∀ member ∈ r, leaves.word member.1) ∧ ∀ member ∈ r, member.2.IsJson leaves := by
  constructor
  · intro h
    -- the record is found back in its entries, which are all that the value shows of it
    generalize hv : Value.dict r.entries = v at h
    cases h with
    | dict distinct names members =>
        obtain rfl := Record.entries_injective (Value.dict.inj hv)
        exact ⟨distinct, names, members⟩
    | _ => exact absurd hv nofun
  · rintro ⟨distinct, names, members⟩
    exact .dict distinct names members

/-- A dictionary of given names and values as one of named values. -/
theorem Value.record_eq (fields : List (String × Value)) :
    Value.record fields =
      .dict (Record.entries (fields.map fun field => (Text.ofString field.1, field.2))) := by
  simp [Value.record, Record.entries]

theorem Value.IsJson.record {leaves : JsonLeaves} {fields : List (String × Value)}
    (distinct : (fields.map fun field => Text.ofString field.1).Nodup)
    (names : ∀ field ∈ fields, leaves.word (Text.ofString field.1))
    (members : ∀ field ∈ fields, field.2.IsJson leaves) : (Value.record fields).IsJson leaves := by
  rw [Value.record_eq]
  refine .dict ?_ (List.forall_mem_map.mpr names) (List.forall_mem_map.mpr members)
  simpa [Function.comp_def] using distinct

/-! ## Names of an object -/

/-- A name is the same key as whatever says the same text, a sorting mode among them. -/
theorem Value.sameKey_text (k : Value) (name : Text) :
    k.sameKey (.text name) = (k.text? == some name) := by
  cases k <;> simp [sameKey, number?, text?]

theorem Entries.insert_entries (r : Record) (name : Text) (v : Value) :
    Entries.insert r.entries (.text name) v = Record.entries (setNamed r name v) := by
  induction r with
  | nil => rfl
  | cons member rest ih =>
      obtain ⟨n, w⟩ := member
      show (if (Value.text n).sameKey (.text name) then _ else _) = _
      rw [Value.sameKey_text]
      by_cases h : n = name
      · simp [setNamed, h, Record.entries, Value.text?]
      · have htail := congrArg (List.cons (Value.text n, w)) ih
        simpa [setNamed, h, Record.entries, Value.text?] using htail

theorem Entries.ofPairs_entries (r : Record) :
    Entries.ofPairs r.entries = Record.entries (collectNamed r) := by
  suffices h : ∀ s : Record,
      r.entries.foldl (fun entries pair => Entries.insert entries pair.1 pair.2) s.entries =
        Record.entries (r.foldl (fun s member => setNamed s member.1 member.2) s) from
    h []
  induction r with
  | nil => exact fun _ => rfl
  | cons member rest ih =>
      intro s
      show (Record.entries rest).foldl _ (Entries.insert s.entries (.text member.1) member.2) = _
      rw [Entries.insert_entries]
      exact ih _

/-- The value under a name of an object is one of its members. -/
theorem Entries.mem_of_get? {r : Record} {name : Text} {v : Value}
    (h : Entries.get? r.entries name = some v) : (name, v) ∈ r := by
  induction r with
  | nil => exact absurd h (by simp [Entries.get?, Record.entries])
  | cons member rest ih =>
      obtain ⟨n, w⟩ := member
      by_cases hn : n = name
      · have hw : w = v := by simpa [Entries.get?, Record.entries, Value.text?, hn] using h
        rw [hn, hw]
        exact List.mem_cons_self
      · refine List.mem_cons_of_mem _ (ih ?_)
        simpa [Entries.get?, Record.entries, Value.text?, hn] using h

theorem Value.IsJson.of_get? {leaves : JsonLeaves} {entries : Entries}
    (h : (Value.dict entries).IsJson leaves) {name : Text} {v : Value}
    (hget : Entries.get? entries name = some v) : v.IsJson leaves := by
  cases h with
  | dict distinct names members => exact members _ (Entries.mem_of_get? hget)

/-! ## What is read from a JSON text -/

namespace Json

theorem Cursor.fault_ne_ok {α : Type} {cur : Cursor} {f : Fault} {a : α} : cur.fault f ≠ .ok a :=
  nofun

theorem digitsValue_lt {ds : Text} (h : ∀ d ∈ ds, d.isDigit = true) :
    Text.digitsValue ds < 10 ^ ds.length := by
  induction ds using List.reverseRecOn with
  | nil => exact Nat.one_pos
  | append_singleton ds d ih =>
      have hds := ih fun d' hd' => h d' (List.mem_append_left _ hd')
      have hd : d.isDigit = true := h d (List.mem_append_right _ List.mem_cons_self)
      have hvalue : d.digitValue ≤ 9 := by
        simp only [CodePoint.isDigit, Bool.and_eq_true, decide_eq_true_eq] at hd
        simp only [CodePoint.digitValue]
        omega
      rw [Text.digitsValue, List.foldl_append, List.length_append, List.length_singleton,
        Nat.pow_succ]
      show 10 * Text.digitsValue ds + d.digitValue < _
      omega

theorem wholeDigits_isDigit {t : Text} {d : CodePoint} (h : d ∈ wholeDigits t) :
    d.isDigit = true := by
  unfold wholeDigits at h
  by_cases hzero : (t.takeWhile CodePoint.isDigit).head? = some ('0' : CodePoint)
  · simp only [hzero, if_true] at h
    exact List.mem_takeWhile_imp (List.mem_of_mem_take h)
  · simp only [hzero, if_false] at h
    exact List.mem_takeWhile_imp h

/-- The integer that a whole part writes has no more digits than are written. -/
theorem wholeDigits_short {t : Text} (h : ¬ Text.maxDigits < (wholeDigits t).length) :
    ShortInteger (Text.digitsValue (wholeDigits t) : Nat) := by
  rw [ShortInteger, Int.natAbs_natCast, Nat.length_toDigits_le_iff (by decide) (by decide)]
  calc Text.digitsValue (wholeDigits t) < 10 ^ (wholeDigits t).length :=
        digitsValue_lt fun _ => wholeDigits_isDigit
    _ ≤ 10 ^ Text.maxDigits := Nat.pow_le_pow_right (by decide) (Nat.le_of_not_lt h)

theorem numberAt_isRead {cur next : Cursor} {v : Value} (h : numberAt cur = .ok (v, next)) :
    v.IsRead := by
  simp only [numberAt] at h
  split_ifs at h with hwhole hplain hlong hsign
  · exact absurd h Cursor.fault_ne_ok
  · obtain ⟨rfl, -⟩ := Prod.mk.inj (Except.ok.inj h)
    exact .int (wholeDigits_short hlong)
  · -- a minus sign is not counted among the digits
    obtain ⟨rfl, -⟩ := Prod.mk.inj (Except.ok.inj h)
    refine .int ?_
    show ShortInteger _
    rw [ShortInteger, Int.natAbs_neg]
    exact wholeDigits_short hlong
  · obtain ⟨rfl, -⟩ := Prod.mk.inj (Except.ok.inj h)
    exact .float trivial

theorem scalarAt_isRead {cur next : Cursor} {v : Value} (h : scalarAt cur = .ok (v, next)) :
    v.IsRead := by
  unfold scalarAt at h
  cases hword : words.find? fun (word, _) => word.isPrefixOf cur.rest with
  | none =>
      rw [hword] at h
      exact numberAt_isRead h
  | some found =>
      rw [hword] at h
      obtain ⟨rfl, -⟩ := Prod.mk.inj (Except.ok.inj h)
      have hmem := List.mem_of_find?_eq_some hword
      simp only [words, List.mem_cons, List.not_mem_nil, or_false] at hmem
      rcases hmem with rfl | rfl | rfl | rfl | rfl | rfl
      · exact .null
      · exact .bool true
      · exact .bool false
      · exact .float trivial
      · exact .float trivial
      · exact .float trivial

/-- What the three readers of nested values give with an amount of fuel. -/
structure NestedRead (fuel : Nat) : Prop where
  value : ∀ {depth cur v next}, valueAt fuel depth cur = .ok (v, next) → v.IsRead
  elements : ∀ {depth cur xs next}, elementsAt fuel depth cur = .ok (xs, next) →
    ∀ x ∈ xs, x.IsRead
  members : ∀ {depth cur ms next}, membersAt fuel depth cur = .ok (ms, next) →
    ∃ r : Record, ms = r.entries ∧ ∀ member ∈ r, member.2.IsRead

theorem nestedRead_zero : NestedRead 0 := by
  refine ⟨fun h => ?_, fun h => ?_, fun h => ?_⟩
  · exact absurd h (by simp [valueAt, Cursor.fault])
  · exact absurd h (by simp [elementsAt, Cursor.fault])
  · exact absurd h (by simp [membersAt, Cursor.fault])

section Step

variable {fuel depth : Nat} {cur next : Cursor} (ih : NestedRead fuel)

include ih

theorem valueAt_isRead {v : Value} (h : valueAt (fuel + 1) depth cur = .ok (v, next)) :
    v.IsRead := by
  rw [valueAt] at h
  simp only at h
  -- a text, an array, an object or a scalar; too deep a nesting gives nothing
  split_ifs at h with htext hlist hdeep hempty hdict hdeep hempty
  · obtain ⟨⟨t, after⟩, -, heq⟩ := Checked.map_eq_ok_iff.mp h
    rw [← (Prod.mk.inj heq).1]
    exact .text trivial
  · rw [← (Prod.mk.inj (Except.ok.inj h)).1]
    exact .list nofun
  · obtain ⟨⟨xs, after⟩, hxs, heq⟩ := Checked.map_eq_ok_iff.mp h
    rw [← (Prod.mk.inj heq).1]
    exact .list (ih.elements hxs)
  · rw [← (Prod.mk.inj (Except.ok.inj h)).1]
    exact .dict (r := []) List.nodup_nil nofun nofun
  · obtain ⟨⟨ms, after⟩, hms, heq⟩ := Checked.map_eq_ok_iff.mp h
    rw [← (Prod.mk.inj heq).1]
    obtain ⟨r, rfl, hr⟩ := ih.members hms
    -- a name that comes twice keeps its last value, so the names of the object are distinct
    rw [Entries.ofPairs_entries]
    exact .dict (collectNamed_nodup r) (fun _ _ => trivial)
      fun member hmember => hr member (mem_collectNamed hmember)
  · exact scalarAt_isRead h

theorem elementsAt_isRead {xs : List Value}
    (h : elementsAt (fuel + 1) depth cur = .ok (xs, next)) : ∀ x ∈ xs, x.IsRead := by
  rw [elementsAt] at h
  cases hx : valueAt fuel depth cur with
  | error e => exact absurd (hx ▸ h) (by simp)
  | ok found =>
      obtain ⟨x, after⟩ := found
      have hread : x.IsRead := ih.value hx
      simp only [hx] at h
      split_ifs at h
      · rw [← (Prod.mk.inj (Except.ok.inj h)).1]
        exact List.forall_mem_singleton.mpr hread
      · obtain ⟨⟨rest, after'⟩, hrest, heq⟩ := Checked.map_eq_ok_iff.mp h
        rw [← (Prod.mk.inj heq).1]
        exact List.forall_mem_cons.mpr ⟨hread, ih.elements hrest⟩
      · exact absurd h Cursor.fault_ne_ok

theorem membersAt_isRead {ms : List (Value × Value)}
    (h : membersAt (fuel + 1) depth cur = .ok (ms, next)) :
    ∃ r : Record, ms = r.entries ∧ ∀ member ∈ r, member.2.IsRead := by
  rw [membersAt] at h
  -- a member is a name in quotes, a colon and a value; whatever is missing is a fault
  by_cases hquote : cur.sees '"' = true
  swap
  · rw [if_neg hquote] at h
    exact absurd h Cursor.fault_ne_ok
  rw [if_pos hquote] at h
  cases hname : textAt cur with
  | error e => exact absurd (hname ▸ h) (by simp)
  | ok found =>
      obtain ⟨name, after⟩ := found
      simp only [hname] at h
      by_cases hcolon : after.skipSpace.sees ':' = true
      swap
      · rw [if_neg hcolon] at h
        exact absurd h Cursor.fault_ne_ok
      rw [if_pos hcolon] at h
      cases hv : valueAt fuel depth (after.skipSpace.advance 1).skipSpace with
      | error e => exact absurd (hv ▸ h) (by simp)
      | ok found' =>
          obtain ⟨v, after'⟩ := found'
          have hread : v.IsRead := ih.value hv
          simp only [hv] at h
          -- the object ends here, or goes on after a comma
          split_ifs at h
          · rw [← (Prod.mk.inj (Except.ok.inj h)).1]
            exact ⟨[(name, v)], rfl, List.forall_mem_singleton.mpr hread⟩
          · obtain ⟨⟨rest, last⟩, hrest, heq⟩ := Checked.map_eq_ok_iff.mp h
            rw [← (Prod.mk.inj heq).1]
            obtain ⟨r, rfl, hr⟩ := ih.members hrest
            exact ⟨(name, v) :: r, rfl, List.forall_mem_cons.mpr ⟨hread, hr⟩⟩
          · exact absurd h Cursor.fault_ne_ok

end Step

theorem nestedRead (fuel : Nat) : NestedRead fuel := by
  induction fuel with
  | zero => exact nestedRead_zero
  | succ fuel ih => exact ⟨valueAt_isRead ih, elementsAt_isRead ih, membersAt_isRead ih⟩

/-- **A JSON text is read as a JSON value**, however deep it is. -/
theorem read_isRead {depth : Nat} {t : Text} {v : Value} (h : read depth t = .ok v) :
    v.IsRead := by
  unfold read at h
  cases hv : valueAt (2 * t.length + 2) depth (Cursor.skipSpace ⟨t, 0⟩) with
  | error e => exact absurd (hv ▸ h) (by simp)
  | ok found =>
      obtain ⟨w, after⟩ := found
      simp only [hv] at h
      split_ifs at h
      · rw [← Except.ok.inj h]
        exact (nestedRead _).value hv
      · exact absurd h Cursor.fault_ne_ok

end Json

/-! ## Bodies -/

/-- What the bytes of a body stand for is bytes or a JSON value. -/
theorem Body.content_isRead {maxDepth : Nat} {headers : Headers} {bytes : List UInt8} {v : Value}
    (h : content maxDepth headers bytes = .ok v) : v = .bytes bytes ∨ v.IsRead := by
  unfold content at h
  split_ifs at h
  · unfold readJson at h
    cases htext : Json.textOf? bytes with
    | none => exact absurd (htext ▸ h) (by simp)
    | some text =>
        simp only [htext] at h
        cases hread : Json.read maxDepth text with
        | ok w =>
            simp only [hread] at h
            rw [← Except.ok.inj h]
            exact Or.inr (Json.read_isRead hread)
        | error e => cases e <;> exact absurd (hread ▸ h) (by simp)
  · exact Or.inl (Except.ok.inj h).symm

/-- Nothing but a dictionary is accepted, so the two refusals of other values do not differ. -/
theorem Request.readOr_eq_ok {refusal : Problem} {v : Value} {request : Request}
    (h : readOr refusal v = .ok request) :
    ∃ entries, v = .dict entries ∧ Request.read v = .ok request := by
  cases v with
  | dict entries => exact ⟨entries, rfl, h⟩
  | _ => exact absurd h (by simp [readOr, Checked.fail])

/-- An accepted body stands for a JSON value that is accepted. -/
theorem Body.read_eq_ok {maxDepth : Nat} {headers : Headers} {bytes : List UInt8}
    {request : Request} (h : Body.read maxDepth headers bytes = .ok request) :
    ∃ data : Value, content maxDepth headers bytes = .ok data ∧ data.IsRead ∧
      Request.read data = .ok request := by
  unfold Body.read at h
  split_ifs at h
  cases hcontent : content maxDepth headers bytes with
  | error fault => exact absurd (hcontent ▸ h) (by simp)
  | ok v =>
      simp only [hcontent] at h
      obtain ⟨entries, rfl, hrequest⟩ := Request.readOr_eq_ok (Checked.mapError_eq_ok_iff.mp h)
      exact ⟨.dict entries, rfl, (content_isRead hcontent).resolve_left nofun, hrequest⟩

end FacetSearch
