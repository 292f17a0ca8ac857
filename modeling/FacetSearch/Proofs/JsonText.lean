/-
# FacetSearch.Proofs.JsonText — which JSON values can be written, and as what.

A response body is UTF-8, and standard JSON has no word for infinity.  A JSON value whose texts hold
no surrogate always has a plain form that can be written; if its numbers are finite as well, the
plain form is the value itself.  Conversely, a value with a surrogate in it has no plain form at
all, and a value that has a JSON text as it is has finite numbers and no surrogates.
-/
import FacetSearch.Http.Message
import FacetSearch.Json.Plain
import FacetSearch.Proofs.JsonValue
import FacetSearch.Proofs.Scalar

namespace FacetSearch

/-- The leaves of a value without surrogates. -/
def JsonLeaves.scalar : JsonLeaves := ⟨fun _ => True, fun _ => True, fun t => t.isScalar = true⟩

/-- The leaves of a value that can be written as it is. -/
def JsonLeaves.written : JsonLeaves :=
  ⟨fun _ => True, fun x => x.isFinite = true, fun t => t.isScalar = true⟩

theorem exists_forall₂ {α β : Type} {R : α → β → Prop} {xs : List α}
    (h : ∀ x ∈ xs, ∃ y, R x y) : ∃ ys, List.Forall₂ R xs ys := by
  induction xs with
  | nil => exact ⟨[], .nil⟩
  | cons x xs ih =>
      rw [List.forall_mem_cons] at h
      obtain ⟨y, hy⟩ := h.1
      obtain ⟨ys, hys⟩ := ih h.2
      exact ⟨y :: ys, .cons hy hys⟩

namespace Json

/-! ## Plain forms -/

theorem plainMembers?_eq_some {xs ys : List Value}
    (h : List.Forall₂ (fun x y => plain? x = some y) xs ys) : plainMembers? xs = some ys := by
  induction h with
  | nil => rfl
  | cons hhead _ ih => rw [plainMembers?, hhead, ih]

theorem plain?_of_plainMembers? {xs ys : List Value} (h : plainMembers? xs = some ys) :
    ∀ x ∈ xs, ∃ y, plain? x = some y := by
  induction xs generalizing ys with
  | nil => exact nofun
  | cons x xs ih =>
      rw [plainMembers?] at h
      cases hx : plain? x with
      | none => simp [hx] at h
      | some y =>
          cases hxs : plainMembers? xs with
          | none => simp [hx, hxs] at h
          | some zs => exact List.forall_mem_cons.mpr ⟨⟨y, hx⟩, ih hxs⟩

/-- A member of an object and its plain form. -/
structure PlainMember (member plain : Text × Value) : Prop where
  spelled : member.1.isScalar = true
  name : plain.1 = member.1
  value : plain? member.2 = some plain.2

theorem plainEntries?_eq_some {r s : Record} (h : List.Forall₂ PlainMember r s) :
    plainEntries? r.entries = some s.entries := by
  induction h with
  | nil => rfl
  | @cons member plain rest rest' hhead _ ih =>
      have hkey : plainKey? (.text member.1) = some member.1 := if_pos hhead.spelled
      show plainEntries? ((.text member.1, member.2) :: Record.entries rest) = _
      rw [plainEntries?, hkey, hhead.value, ih, ← hhead.name]
      rfl

theorem plainMember_of_plainEntries? {r : Record} {entries : Entries}
    (h : plainEntries? r.entries = some entries) :
    ∀ member ∈ r, member.1.isScalar = true ∧ ∃ w, plain? member.2 = some w := by
  induction r generalizing entries with
  | nil => exact nofun
  | cons member rest ih =>
      have hcons : plainEntries? ((.text member.1, member.2) :: Record.entries rest) =
          some entries := h
      rw [plainEntries?, plainKey?, spelled?] at hcons
      by_cases hname : member.1.isScalar = true
      swap
      · simp [hname] at hcons
      cases hv : plain? member.2 with
      | none => simp [hname, hv] at hcons
      | some w =>
          cases hrest : plainEntries? (Record.entries rest) with
          | none => simp [hname, hv, hrest] at hcons
          | some entries' => exact List.forall_mem_cons.mpr ⟨⟨hname, w, hv⟩, ih hrest⟩

/-- A value that can be written as it is has itself for a plain form. -/
theorem plain?_eq_self {v : Value} (h : v.IsJson .written) : plain? v = some v := by
  induction h with
  | null => rfl
  | bool b => rfl
  | int _ => rfl
  | float admitted =>
      have hfinite : Binary64.isFinite _ = true := admitted
      rw [plain?, if_pos hfinite]
  | text admitted =>
      have hscalar : Text.isScalar _ = true := admitted
      rw [plain?, spelled?, if_pos hscalar]
      rfl
  | list _ ih =>
      rw [plain?, plainMembers?_eq_some (List.forall₂_same.mpr ih)]
      rfl
  | dict _ names _ ih =>
      have hplain : List.Forall₂ PlainMember _ _ :=
        List.forall₂_same.mpr fun member hmember => ⟨names member hmember, rfl, ih member hmember⟩
      rw [plain?, plainEntries?_eq_some hplain]
      rfl

/-- The members of an object have plain forms that make an object again. -/
theorem exists_plainMembers {r : Record} (distinct : (r.map Prod.fst).Nodup)
    (names : ∀ member ∈ r, member.1.isScalar = true)
    (h : ∀ member ∈ r, ∃ w, plain? member.2 = some w ∧ w.IsJson .written) :
    ∃ s : Record, List.Forall₂ PlainMember r s ∧ (Value.dict s.entries).IsJson .written := by
  have hmembers : ∀ member ∈ r, ∃ plain : Text × Value,
      PlainMember member plain ∧ plain.2.IsJson .written := by
    intro member hmember
    obtain ⟨w, hw, hwritten⟩ := h member hmember
    exact ⟨(member.1, w), ⟨names member hmember, rfl, hw⟩, hwritten⟩
  obtain ⟨s, hs⟩ := exists_forall₂ hmembers
  -- plain forms keep the names, so the names stay distinct
  have hnames : s.map Prod.fst = r.map Prod.fst := by
    rw [← List.forall₂_eq_eq_eq, List.forall₂_map_left_iff, List.forall₂_map_right_iff]
    exact hs.flip.imp fun _ _ h => h.1.name
  refine ⟨s, hs.imp fun _ _ h => h.1, .dict (hnames ▸ distinct) ?_ ?_⟩
  · refine forall_mem_of_forall₂ hs fun _ _ h => ?_
    show Text.isScalar _ = true
    rw [h.1.name]
    exact h.1.spelled
  · exact forall_mem_of_forall₂ hs fun _ _ h => h.2

/-- A value without surrogates has a plain form that can be written. -/
theorem exists_plain {v : Value} (h : v.IsJson .scalar) :
    ∃ w, plain? v = some w ∧ w.IsJson .written := by
  induction h with
  | null => exact ⟨.null, rfl, .null⟩
  | bool b => exact ⟨.bool b, rfl, .bool b⟩
  | int _ => exact ⟨_, rfl, .int trivial⟩
  | @float x _ =>
      -- a number that is not finite is not lost but becomes null
      by_cases hx : x.isFinite = true
      · exact ⟨.float x, by rw [plain?, if_pos hx], .float hx⟩
      · exact ⟨.null, by rw [plain?, if_neg hx], .null⟩
  | @text t admitted =>
      have hscalar : t.isScalar = true := admitted
      exact ⟨.text t, plain?_eq_self (.text hscalar), .text hscalar⟩
  | list _ ih =>
      obtain ⟨ys, hys⟩ := exists_forall₂ ih
      refine ⟨.list ys, ?_, .list (forall_mem_of_forall₂ hys fun _ _ h => h.2)⟩
      rw [plain?, plainMembers?_eq_some (hys.imp fun _ _ h => h.1)]
      rfl
  | @dict r distinct names _ ih =>
      obtain ⟨s, hs, hwritten⟩ := exists_plainMembers distinct names ih
      refine ⟨.dict (Record.entries s), ?_, hwritten⟩
      rw [plain?, plainEntries?_eq_some hs]
      rfl

theorem exists_plainRecord {r : Record} (h : (Value.dict r.entries).IsJson .scalar) :
    ∃ s : Record, List.Forall₂ PlainMember r s ∧ (Value.dict s.entries).IsJson .written := by
  obtain ⟨distinct, names, members⟩ := Value.isJson_dict_iff.mp h
  have hplain : ∀ member ∈ r, ∃ w, plain? member.2 = some w ∧ w.IsJson .written :=
    fun member hmember => exists_plain (members member hmember)
  exact exists_plainMembers distinct names hplain

/-- **A JSON value with a plain form holds no surrogate**: one anywhere in it would have left it
without. -/
theorem scalar_of_plain? {leaves : JsonLeaves} {v w : Value} (h : v.IsJson leaves)
    (hplain : plain? v = some w) :
    v.IsJson { leaves with word := fun t => t.isScalar = true } := by
  induction h generalizing w with
  | null => exact .null
  | bool b => exact .bool b
  | int admitted => exact .int admitted
  | float admitted => exact .float admitted
  | @text t _ =>
      refine .text (show t.isScalar = true from ?_)
      by_contra hnot
      rw [plain?, spelled?, if_neg hnot] at hplain
      exact absurd hplain (by simp)
  | @list xs _ ih =>
      rw [plain?] at hplain
      obtain ⟨ys, hys, -⟩ := Option.map_eq_some_iff.mp hplain
      apply Value.IsJson.list
      intro x hx
      obtain ⟨y, hy⟩ := plain?_of_plainMembers? hys x hx
      exact ih x hx hy
  | @dict r distinct _ _ ih =>
      rw [plain?] at hplain
      obtain ⟨entries, hentries, -⟩ := Option.map_eq_some_iff.mp hplain
      have hmembers := plainMember_of_plainEntries? hentries
      refine .dict distinct (fun member hmember => (hmembers member hmember).1) ?_
      intro member hmember
      obtain ⟨y, hy⟩ := (hmembers member hmember).2
      exact ih member hmember hy

/-! ## Written texts -/

theorem writeInt_body (n : Int) : writeInt .body n = .ok (Text.ofInt n) := if_pos (Or.inl rfl)

theorem writeFloat_isOk {x : Binary64} (h : x.isFinite = true) :
    ∃ t, writeFloat .body x = .ok t ∧ t.isScalar = true := by
  refine ⟨x.textIn floatLayout, ?_, ?_⟩
  · rw [writeFloat, h, Bool.true_or]
    rfl
  · exact Binary64.isScalar_textIn (Text.isScalar_ofString _) (Text.isScalar_ofString _) x

theorem writeElements_isOk {xs : List Value}
    (h : ∀ x ∈ xs, ∃ t, write .body x = .ok t ∧ t.isScalar = true) :
    ∃ ts, writeElements .body xs = .ok ts ∧ ∀ t ∈ ts, t.isScalar = true := by
  induction xs with
  | nil => exact ⟨[], by rw [writeElements], nofun⟩
  | cons x xs ih =>
      rw [List.forall_mem_cons] at h
      obtain ⟨t, ht, hscalar⟩ := h.1
      obtain ⟨ts, hts, hscalars⟩ := ih h.2
      refine ⟨t :: ts, ?_, List.forall_mem_cons.mpr ⟨hscalar, hscalars⟩⟩
      rw [writeElements, ht, hts]
      rfl

theorem writeMembers_isOk {r : Record} (hnames : ∀ member ∈ r, member.1.isScalar = true)
    (h : ∀ member ∈ r, ∃ t, write .body member.2 = .ok t ∧ t.isScalar = true) :
    ∃ ts, writeMembers .body r.entries = .ok ts ∧ ∀ t ∈ ts, t.isScalar = true := by
  induction r with
  | nil => exact ⟨[], by rw [Record.entries, List.map_nil, writeMembers], nofun⟩
  | cons member rest ih =>
      rw [List.forall_mem_cons] at hnames h
      obtain ⟨t, ht, hscalar⟩ := h.1
      obtain ⟨ts, hts, hscalars⟩ := ih hnames.2 h.2
      refine ⟨(quote member.1 ++ Style.body.colon ++ t) :: ts, ?_, ?_⟩
      · show writeMembers .body ((.text member.1, member.2) :: Record.entries rest) = _
        rw [writeMembers, writeKey, ht, hts]
        rfl
      · refine List.forall_mem_cons.mpr ⟨?_, hscalars⟩
        simp [isScalar_quote hnames.1, hscalar, Style.body]

/-- What can be written as it is has a JSON text, and the text is UTF-8. -/
theorem write_isOk {v : Value} (h : v.IsJson .written) :
    ∃ t, write .body v = .ok t ∧ t.isScalar = true := by
  induction h with
  | null => exact ⟨"null", by rw [write], Text.isScalar_ofString _⟩
  | bool b =>
      refine ⟨if b then "true" else "false", by rw [write], ?_⟩
      cases b <;> exact Text.isScalar_ofString _
  | @int n _ => exact ⟨Text.ofInt n, by rw [write, writeInt_body], Text.isScalar_ofInt n⟩
  | float admitted =>
      rw [write]
      exact writeFloat_isOk admitted
  | @text t admitted => exact ⟨quote t, by rw [write], isScalar_quote admitted⟩
  | list _ ih =>
      obtain ⟨ts, hts, hscalar⟩ := writeElements_isOk ih
      refine ⟨"[" ++ Text.join Style.body.comma ts ++ "]", ?_, ?_⟩
      · rw [write, writeArray, hts]
        rfl
      · have hjoin := Text.isScalar_join (Text.isScalar_ofString ",") hscalar
        simp [Style.body, hjoin]
  | dict _ names _ ih =>
      -- names are written as texts are, so they have to be free of surrogates as well
      obtain ⟨ts, hts, hscalar⟩ := writeMembers_isOk names ih
      refine ⟨"\x7b" ++ Text.join Style.body.comma ts ++ "\x7d", ?_, ?_⟩
      · rw [write, hts]
        rfl
      · have hjoin := Text.isScalar_join (Text.isScalar_ofString ",") hscalar
        simp [Style.body, hjoin]

/-! ## What a written text shows -/

theorem mem_of_writeElements {xs : List Value} {ts : List Text}
    (h : writeElements .body xs = .ok ts) : ∀ x ∈ xs, ∃ t ∈ ts, write .body x = .ok t := by
  induction xs generalizing ts with
  | nil => exact nofun
  | cons x xs ih =>
      rw [writeElements] at h
      cases hx : write .body x with
      | error e => exact absurd (hx ▸ h) (by simp)
      | ok t =>
          simp only [hx] at h
          obtain ⟨rest, hrest, rfl⟩ := Checked.map_eq_ok_iff.mp h
          refine List.forall_mem_cons.mpr ⟨⟨t, List.mem_cons_self, hx⟩, ?_⟩
          intro x' hx'
          obtain ⟨t', ht', hwrite⟩ := ih hrest x' hx'
          exact ⟨t', List.mem_cons_of_mem t ht', hwrite⟩

theorem mem_of_writeMembers {style : Style} {r : Record} {ts : List Text}
    (h : writeMembers style r.entries = .ok ts) :
    ∀ member ∈ r, ∃ t, write style member.2 = .ok t ∧
      quote member.1 ++ style.colon ++ t ∈ ts := by
  induction r generalizing ts with
  | nil => exact nofun
  | cons member rest ih =>
      have hcons : writeMembers style ((.text member.1, member.2) :: Record.entries rest) =
          .ok ts := h
      rw [writeMembers, writeKey] at hcons
      cases hv : write style member.2 with
      | error e => exact absurd (hv ▸ hcons) (by simp)
      | ok t =>
          simp only [hv] at hcons
          obtain ⟨rest', hrest, rfl⟩ := Checked.map_eq_ok_iff.mp hcons
          refine List.forall_mem_cons.mpr ⟨⟨t, hv, List.mem_cons_self⟩, ?_⟩
          intro member' hmember'
          obtain ⟨t', hwrite, ht'⟩ := ih hrest member' hmember'
          exact ⟨t', hwrite, List.mem_cons_of_mem _ ht'⟩

/-- The text of an element is a part of the text of its array. -/
theorem write_of_list {xs : List Value} {t : Text} (h : write .body (.list xs) = .ok t) :
    ∀ x ∈ xs, ∃ u, write .body x = .ok u ∧ (t.isScalar = true → u.isScalar = true) := by
  rw [write, writeArray] at h
  obtain ⟨ts, hts, rfl⟩ := Checked.map_eq_ok_iff.mp h
  intro x hx
  obtain ⟨u, hu, hwrite⟩ := mem_of_writeElements hts x hx
  refine ⟨u, hwrite, fun hscalar => ?_⟩
  simp only [Text.isScalar_append] at hscalar
  exact Text.isScalar_of_join hscalar.1.2 u hu

/-- The name of a member and the text of its value are parts of the text of their object. -/
theorem write_of_dict {r : Record} {t : Text} (h : write .body (.dict r.entries) = .ok t) :
    ∀ member ∈ r, ∃ u, write .body member.2 = .ok u ∧
      (t.isScalar = true → member.1.isScalar = true ∧ u.isScalar = true) := by
  rw [write] at h
  obtain ⟨ts, hts, rfl⟩ := Checked.map_eq_ok_iff.mp h
  intro member hmember
  obtain ⟨u, hwrite, hu⟩ := mem_of_writeMembers hts member hmember
  refine ⟨u, hwrite, fun hscalar => ?_⟩
  simp only [Text.isScalar_append] at hscalar
  have hjoined := Text.isScalar_of_join hscalar.1.2 _ hu
  simp only [Text.isScalar_append] at hjoined
  exact ⟨isScalar_of_quote hjoined.1.1, hjoined.2⟩

/-- **Only what can be written as it is has a JSON text**: a number that is not finite is refused,
and a surrogate still stands in the text. -/
theorem leaves_of_write {leaves : JsonLeaves} {v : Value} (h : v.IsJson leaves) {t : Text}
    (hwrite : write .body v = .ok t) :
    v.IsJson ⟨leaves.integer, fun x => x.isFinite = true,
      fun word => t.isScalar = true → word.isScalar = true⟩ := by
  induction h generalizing t with
  | null => exact .null
  | bool b => exact .bool b
  | int admitted => exact .int admitted
  | @float x _ =>
      refine .float (show x.isFinite = true from ?_)
      by_contra hx
      rw [write, writeFloat] at hwrite
      simp [hx, Style.body] at hwrite
  | text _ =>
      rw [write] at hwrite
      obtain rfl := Except.ok.inj hwrite
      exact .text isScalar_of_quote
  | list _ ih =>
      refine .list fun x hx => ?_
      obtain ⟨u, hu, hscalar⟩ := write_of_list hwrite x hx
      refine (ih x hx hu).mono ?_ ?_ ?_
      · exact fun _ h => h
      · exact fun _ h => h
      · exact fun word hword ht => hword (hscalar ht)
  | dict distinct _ _ ih =>
      have hparts := write_of_dict hwrite
      refine .dict distinct (fun member hmember => ?_) fun member hmember => ?_
      · obtain ⟨u, -, hscalar⟩ := hparts member hmember
        exact fun ht => (hscalar ht).1
      · obtain ⟨u, hu, hscalar⟩ := hparts member hmember
        refine (ih member hmember hu).mono ?_ ?_ ?_
        · exact fun _ h => h
        · exact fun _ h => h
        · exact fun word hword ht => hword (hscalar ht).2

/-- A value has a JSON text, and the text is UTF-8. -/
def Writable (v : Value) : Prop := ∃ t, write .body v = .ok t ∧ t.isScalar = true

theorem Writable.of_list {xs : List Value} (h : Writable (.list xs)) : ∀ x ∈ xs, Writable x := by
  obtain ⟨t, ht, hscalar⟩ := h
  intro x hx
  obtain ⟨u, hu, himp⟩ := write_of_list ht x hx
  exact ⟨u, hu, himp hscalar⟩

theorem Writable.of_record {fields : List (String × Value)} (h : Writable (.record fields)) :
    ∀ field ∈ fields, Writable field.2 := by
  obtain ⟨t, ht, hscalar⟩ := h
  rw [Value.record_eq] at ht
  intro field hfield
  obtain ⟨u, hu, himp⟩ := write_of_dict ht _ (List.mem_map_of_mem hfield)
  exact ⟨u, hu, (himp hscalar).2⟩

/-- A JSON value has a JSON text that is UTF-8 exactly if it can be written as it is. -/
theorem writable_iff {leaves : JsonLeaves} {v : Value} (h : v.IsJson leaves) :
    Writable v ↔ v.IsJson .written := by
  refine ⟨?_, write_isOk⟩
  rintro ⟨t, hwrite, ht⟩
  refine (leaves_of_write h hwrite).mono ?_ ?_ ?_
  · exact fun _ _ => trivial
  · exact fun _ h => h
  · exact fun _ hword => hword ht

theorem not_writable_bytes (bs : List UInt8) : ¬ Writable (.bytes bs) := by
  rintro ⟨t, hwrite, -⟩
  simp [write, writeOther, Style.body] at hwrite

/-! ## Records -/

/-- A record of members that have plain forms and are not too deep has a plain form. -/
theorem plainRecord?_eq_some {r s : Record} (h : List.Forall₂ PlainMember r s)
    (hdeep : ∀ member ∈ r, nesting member.2 ≤ maxNesting) : plainRecord? r = some s := by
  induction h with
  | nil => rfl
  | @cons member plain rest rest' hhead _ ih =>
      obtain ⟨name, v⟩ := member
      obtain ⟨hspelled, hname, hvalue⟩ := hhead
      rw [List.forall_mem_cons] at hdeep
      have htail : plainRecord? rest = some rest' := ih hdeep.2
      rw [plainRecord?] at htail ⊢
      rw [List.mapM_cons, htail]
      simp only [if_pos hdeep.1, hvalue, Utf8.replaceSurrogates_eq_self hspelled, Option.map_some]
      rw [← show plain.1 = name from hname]
      rfl

theorem mem_of_plainRecord? {r s : Record} (h : plainRecord? r = some s) :
    ∀ member ∈ r, nesting member.2 ≤ maxNesting ∧ ∃ w, plain? member.2 = some w := by
  induction r generalizing s with
  | nil => exact nofun
  | cons member rest ih =>
      rw [plainRecord?, List.mapM_cons] at h
      obtain ⟨plain, hplain, hrest⟩ := Option.bind_eq_some_iff.mp h
      obtain ⟨tail, htail, -⟩ := Option.bind_eq_some_iff.mp hrest
      refine List.forall_mem_cons.mpr ⟨?_, ih htail⟩
      obtain ⟨name, v⟩ := member
      by_cases hdeep : nesting v ≤ maxNesting
      · simp only [if_pos hdeep] at hplain
        obtain ⟨w, hw, -⟩ := Option.map_eq_some_iff.mp hplain
        exact ⟨hdeep, w, hw⟩
      · simp only [if_neg hdeep] at hplain
        exact absurd hplain (by simp)

end Json

/-- What has a JSON text that is UTF-8 makes a response. -/
theorem Json.Writable.response {content : Value} (h : Json.Writable content) (status : Int) :
    ∃ body, Json.write .body content = .ok body ∧
      HttpResponse.json status content = .ok (.ofJson (.number status) body) := by
  obtain ⟨body, hbody, hscalar⟩ := h
  refine ⟨body, hbody, ?_⟩
  rw [HttpResponse.json, HttpResponse.jsonBody, hbody]
  simp only [hscalar, if_true]
  rfl

/-- What can be written as it is makes a response. -/
theorem HttpResponse.json_isOk {content : Value} (h : content.IsJson .written) (status : Int) :
    ∃ body, Json.write .body content = .ok body ∧
      HttpResponse.json status content = .ok (.ofJson (.number status) body) :=
  Json.Writable.response (Json.write_isOk h) status

theorem HttpResponse.jsonBody_eq_ok {content : Value} {body : Text}
    (h : HttpResponse.jsonBody content = .ok body) :
    Json.write .body content = .ok body ∧ body.isScalar = true := by
  rw [jsonBody] at h
  cases hwrite : Json.write .body content with
  | error fault => exact absurd (hwrite ▸ h) nofun
  | ok t =>
      simp only [hwrite] at h
      split_ifs at h with hscalar
      obtain rfl := Except.ok.inj h
      exact ⟨rfl, hscalar⟩

/-- Nothing else makes a response. -/
theorem HttpResponse.json_eq_ok {status : Int} {content : Value} {response : HttpResponse}
    (h : HttpResponse.json status content = .ok response) : Json.Writable content := by
  obtain ⟨body, hbody, -⟩ := Checked.map_eq_ok_iff.mp h
  exact ⟨body, jsonBody_eq_ok hbody⟩

end FacetSearch
