/-
# FacetSearch.Proofs.Issues — what the issues of a refused JSON value are like.

A reading that fails says which part of the value was the problem, and where.  Each reader is
followed once: whatever it refuses of a JSON value is a part of that value, and neither the path to
it nor the wording of the problem holds a surrogate.
-/
import FacetSearch.Proofs.JsonText
import FacetSearch.Query.Request

namespace FacetSearch

open Validation

/-! ## Issues -/

/-- What a problem takes from elsewhere for its wording holds no surrogate. -/
def Problem.Spelled : Problem → Prop
  | .notModel model => model.isScalar = true
  | .badJson reason => reason.isScalar = true
  | .raised reason => reason.isScalar = true
  | _ => True

theorem Problem.isScalar_code (p : Problem) : p.code.isScalar = true := by
  cases p <;> exact Text.isScalar_ofString _

namespace Problem.Spelled

variable {p : Problem} (h : p.Spelled)

include h

theorem isScalar_message : p.message.isScalar = true := by
  cases p with
  | notModel model =>
      have hmodel : model.isScalar = true := h
      simp [message, hmodel]
  | below bound => simp [message]
  | raised reason =>
      have hreason : reason.isScalar = true := h
      simp [message, hreason]
  | _ => exact Text.isScalar_ofString _

/-- A problem has one particular at most. -/
theorem context?_cases :
    p.context? = none ∨ ∃ name x, p.context? = some [(name, x)] ∧ name.isScalar = true ∧
      x.display.isScalar = true := by
  cases p with
  | below bound =>
      exact Or.inr ⟨"ge", .int bound, rfl, Text.isScalar_ofString _, Text.isScalar_ofInt bound⟩
  | badJson reason => exact Or.inr ⟨"error", .text reason, rfl, Text.isScalar_ofString _, h⟩
  | raised reason => exact Or.inr ⟨"error", .text reason, rfl, Text.isScalar_ofString _, h⟩
  | _ => exact Or.inl rfl

end Problem.Spelled

/-- The path of an issue can be spelled. -/
def SpelledPath (path : List Step) : Prop :=
  ∀ name, Step.name name ∈ path → name.isScalar = true

theorem SpelledPath.nil : SpelledPath [] := nofun

theorem SpelledPath.name {name : Text} {path : List Step} (hname : name.isScalar = true)
    (h : SpelledPath path) : SpelledPath (.name name :: path) := by
  intro name' hname'
  rcases List.mem_cons.mp hname' with heq | hmem
  · rw [Step.name.inj heq]
    exact hname
  · exact h name' hmem

theorem SpelledPath.index {i : Int} {path : List Step} (h : SpelledPath path) :
    SpelledPath (.index i :: path) := by
  intro name hname
  rcases List.mem_cons.mp hname with heq | hmem
  · exact absurd heq nofun
  · exact h name hmem

/-- An issue with a part of a JSON value. -/
structure Issue.Located (leaves : JsonLeaves) (i : Issue) : Prop where
  problem : i.problem.Spelled
  path : SpelledPath i.path
  input : i.input.IsJson leaves

variable {leaves : JsonLeaves}

/-- Everything that a reading finds wrong is an issue with a part of a JSON value. -/
def Checked.Locates {α : Type} (leaves : JsonLeaves) (c : Checked α) : Prop :=
  ∀ issues, c = .error issues → ∀ i ∈ issues, i.Located leaves

namespace Checked.Locates

variable {α β : Type}

theorem ok (a : α) : Locates leaves (.ok a) := nofun

theorem error {issues : List Issue} (h : ∀ i ∈ issues, i.Located leaves) :
    Locates leaves (.error issues : Checked α) := by
  intro issues' heq
  obtain rfl := Except.error.inj heq
  exact h

theorem fail {problem : Problem} (hproblem : problem.Spelled) {v : Value} (hv : v.IsJson leaves) :
    Locates leaves (Checked.fail problem v : Checked α) :=
  error (List.forall_mem_singleton.mpr ⟨hproblem, .nil, hv⟩)

theorem map {c : Checked α} (h : c.Locates leaves) (f : α → β) :
    Locates leaves (Except.map f c : Checked β) := by
  cases c with
  | ok a => exact ok _
  | error issues => exact error (h issues rfl)

theorem ap {f : Checked (α → β)} {a : Checked α} (hf : f.Locates leaves) (ha : a.Locates leaves) :
    Locates leaves (Checked.ap f a) := by
  cases f with
  | ok f =>
      cases a with
      | ok a => exact ok _
      | error issues => exact error (ha issues rfl)
  | error issues =>
      cases a with
      | ok a => exact error (hf issues rfl)
      | error issues' => exact error (List.forall_mem_append.mpr ⟨hf issues rfl, ha issues' rfl⟩)

theorem under {step : Step} (hstep : ∀ path, SpelledPath path → SpelledPath (step :: path))
    {c : Checked α} (h : c.Locates leaves) : Locates leaves (Checked.under step c) := by
  cases c with
  | ok a => exact ok _
  | error issues =>
      refine error (List.forall_mem_map.mpr fun i hi => ?_)
      obtain ⟨hproblem, hpath, hinput⟩ := h issues rfl i hi
      exact ⟨hproblem, hstep _ hpath, hinput⟩

theorem each {read : Value → Checked α} {xs : List Value}
    (h : ∀ x ∈ xs, (read x).Locates leaves) (start : Nat) :
    Locates leaves (Checked.each read start xs) := by
  induction xs generalizing start with
  | nil => exact ok _
  | cons x xs ih =>
      rw [List.forall_mem_cons] at h
      exact ap (map (under (fun _ => .index) h.1) _) (ih h.2 (start + 1))

end Checked.Locates

/-! ## Readers of single values -/

/-- Whatever problem comes of reading a single value is spelled. -/
def SpellingRefusals {α : Type} (c : Except Problem α) : Prop := ∀ p, c = .error p → p.Spelled

namespace SpellingRefusals

variable {α : Type}

theorem ok (a : α) : SpellingRefusals (.ok a : Except Problem α) := nofun

theorem error {p : Problem} (h : p.Spelled) : SpellingRefusals (.error p : Except Problem α) := by
  intro p' heq
  obtain rfl := Except.error.inj heq
  exact h

theorem intOfFloat (x : Binary64) : SpellingRefusals (Validation.intOfFloat x) := by
  unfold Validation.intOfFloat
  repeat' split
  all_goals first | exact ok _ | exact error trivial

theorem intOfDecimal (d : DecimalDatum) : SpellingRefusals (Validation.intOfDecimal d) := by
  unfold Validation.intOfDecimal
  repeat' split
  all_goals first | exact ok _ | exact error trivial

theorem intOfText (t : Text) : SpellingRefusals (Validation.intOfText t) := by
  unfold Validation.intOfText
  split
  · exact ok _
  · exact error trivial
  · exact error trivial

theorem int? (v : Value) : SpellingRefusals (Validation.int? v) := by
  unfold Validation.int?
  repeat' split
  all_goals first
    | exact ok _
    | exact error trivial
    | exact intOfFloat _
    | exact intOfDecimal _
    | exact intOfText _

theorem decimal? (v : Value) : SpellingRefusals (Validation.decimal? v) := by
  simp only [Validation.decimal?]
  repeat' split
  all_goals first | exact ok _ | exact error trivial

theorem boolOfInt (n : Int) : SpellingRefusals (Validation.boolOfInt n) := by
  unfold Validation.boolOfInt
  split_ifs
  · exact ok _
  · exact ok _
  · exact error trivial

theorem boolOfFloat (x : Binary64) : SpellingRefusals (Validation.boolOfFloat x) := by
  unfold Validation.boolOfFloat
  split
  · exact boolOfInt _
  · exact error trivial

theorem boolOfText (t : Text) : SpellingRefusals (Validation.boolOfText t) := by
  unfold Validation.boolOfText
  split_ifs
  · exact ok _
  · exact ok _
  · exact error trivial

theorem bool? (v : Value) : SpellingRefusals (Validation.bool? v) := by
  unfold Validation.bool?
  repeat' split
  all_goals first
    | exact ok _
    | exact error trivial
    | exact boolOfInt _
    | exact boolOfFloat _
    | exact boolOfText _

theorem float? (v : Value) : SpellingRefusals (Validation.float? v) := by
  simp only [Validation.float?]
  repeat' split
  all_goals first | exact ok _ | exact error trivial

theorem text? (v : Value) : SpellingRefusals (Validation.text? v) := by
  unfold Validation.text?
  split
  · exact ok _
  · exact ok _
  · exact error trivial
  · exact error trivial

end SpellingRefusals

/-! ## Readers of lists and dictionaries -/

/-- The members of a JSON value are JSON values. -/
theorem Value.IsJson.members {v : Value} (hv : v.IsJson leaves) {xs : List Value}
    (h : v.members? = some xs) : ∀ x ∈ xs, x.IsJson leaves := by
  cases hv with
  | list members =>
      obtain rfl := Option.some.inj h
      exact members
  | _ => exact absurd h nofun

section Readers

variable {α : Type}

/-- Surrogates are gone from the step that a name makes. -/
theorem SpelledPath.ofKey (name : Text) (path : List Step) (h : SpelledPath path) :
    SpelledPath (Step.ofKey (.text name) :: path) :=
  h.name (Utf8.isScalar_replaceSurrogates name)

theorem entriesOf_locates {read : Value → Checked α} {r : Record}
    (h : ∀ member ∈ r, (read member.2).Locates leaves) :
    (entriesOf read r.entries).Locates leaves := by
  induction r with
  | nil => exact .ok []
  | cons member rest ih =>
      rw [List.forall_mem_cons] at h
      have hkey : (key (.text member.1)).Locates leaves := by
        rw [key_text]
        exact .ok _
      have hentry : (Checked.both (key (.text member.1))
          (Checked.under (Step.ofKey (.text member.1)) (read member.2))).Locates leaves :=
        .ap (hkey.map Prod.mk) (.under (SpelledPath.ofKey member.1) h.1)
      exact .ap (hentry.map List.cons) (ih h.2)

variable {v : Value} (hv : v.IsJson leaves)

include hv

theorem scalar_locates {read : Value → Except Problem α} (h : SpellingRefusals (read v)) :
    (scalar read v).Locates leaves := by
  unfold scalar
  cases hread : read v with
  | ok a => exact .ok a
  | error p => exact .fail (h p hread) hv

theorem listOf_locates {read : Value → Checked α}
    (h : ∀ x : Value, x.IsJson leaves → (read x).Locates leaves) :
    (listOf read v).Locates leaves := by
  unfold listOf
  cases hmembers : v.members? with
  | none => exact .fail (show Problem.notList.Spelled from trivial) hv
  | some xs => exact .each (fun x hx => h x (hv.members hmembers x hx)) 0

theorem dictOf_locates {read : Value → Checked α}
    (h : ∀ x : Value, x.IsJson leaves → (read x).Locates leaves) :
    (dictOf read v).Locates leaves := by
  unfold dictOf
  split
  · cases hv with
    | dict distinct names members =>
        exact .map (entriesOf_locates fun member hm => h member.2 (members member hm)) _
  · exact .fail (show Problem.notDict.Spelled from trivial) hv

end Readers

theorem nullable_locates {α : Type} {read : Value → Checked α} {v : Value}
    (h : (read v).Locates leaves) : (nullable read v).Locates leaves := by
  cases v with
  | null => exact .ok none
  | _ => exact h.map some

section Fields

variable {α : Type} {entries : Entries} (hentries : (Value.dict entries).IsJson leaves)
  {name : Text} (hname : name.isScalar = true) {read : Value → Checked α}
  (hread : ∀ v : Value, v.IsJson leaves → (read v).Locates leaves)

include hentries hname hread

theorem field_locates {absent : Checked α} (habsent : absent.Locates leaves) :
    (field entries name read absent).Locates leaves := by
  unfold field
  cases hget : Entries.get? entries name with
  | none => exact habsent
  | some v => exact .under (fun _ => .name hname) (hread v (hentries.of_get? hget))

theorem fieldEither_locates {other : Text} (hother : other.isScalar = true) {absent : Checked α}
    (habsent : absent.Locates leaves) :
    (fieldEither entries name other read absent).Locates leaves :=
  field_locates hentries hname hread (field_locates hentries hother hread habsent)

end Fields

/-! ## Readers of a request body -/

section Bodies

variable {v : Value} (hv : v.IsJson leaves)

include hv

theorem PropertyValue.read_locates : (PropertyValue.read v).Locates leaves := by
  have hword (s : String) : SpelledPath [.name s] := SpelledPath.nil.name (Text.isScalar_ofString s)
  unfold PropertyValue.read
  repeat' split
  all_goals first | exact .ok _ | skip
  rename_i p q r htext hint hfloat
  refine .error ?_
  simp only [List.forall_mem_cons]
  exact ⟨⟨SpellingRefusals.text? v p htext, hword _, hv⟩,
    ⟨SpellingRefusals.int? v q hint, hword _, hv⟩,
    ⟨SpellingRefusals.float? v r hfloat, hword _, hv⟩, nofun⟩

theorem TaxonId.read_locates : (TaxonId.read v).Locates leaves := by
  have hword (s : String) : SpelledPath [.name s] := SpelledPath.nil.name (Text.isScalar_ofString s)
  unfold TaxonId.read
  repeat' split
  all_goals first | exact .ok _ | skip
  rename_i p q hint htext
  refine .error ?_
  simp only [List.forall_mem_cons]
  exact ⟨⟨SpellingRefusals.int? v p hint, hword _, hv⟩,
    ⟨SpellingRefusals.text? v q htext, hword _, hv⟩, nofun⟩

theorem Request.readOffset_locates : (Request.readOffset v).Locates leaves := by
  unfold Request.readOffset
  cases hread : scalar int? v with
  | error issues =>
      exact .error (scalar_locates hv (.int? v) issues hread)
  | ok n =>
      simp only
      split_ifs
      · exact .fail (show (Problem.below 0).Spelled from trivial) hv
      · exact .ok _

/-- **Whatever a request body refuses of a JSON value is a part of that value**, with a problem and
at a place that can be spelled. -/
theorem Request.readOr_locates : (Request.readOr .notObject v).Locates leaves := by
  unfold Request.readOr
  split
  swap
  · exact .fail (show Problem.notObject.Spelled from trivial) hv
  have hlabel (s : String) : (Text.ofString s).isScalar = true := Text.isScalar_ofString s
  have htext {w : Value} (hw : w.IsJson leaves) : (nullable (scalar text?) w).Locates leaves :=
    nullable_locates (scalar_locates hw (.text? w))
  have hprice {w : Value} (hw : w.IsJson leaves) : (nullable (scalar decimal?) w).Locates leaves :=
    nullable_locates (scalar_locates hw (.decimal? w))
  refine .ap (.ap (.ap (.ap (.ap (.ap (.ap (.ap (.ok _) ?_) ?_) ?_) ?_) ?_) ?_) ?_) ?_
  · exact fieldEither_locates hv (hlabel _) (fun _ => Request.readOffset_locates) (hlabel _) (.ok 0)
  · exact field_locates hv (hlabel _) (fun _ => htext) (.ok none)
  · exact field_locates hv (hlabel _) (fun _ => hprice) (.ok none)
  · exact field_locates hv (hlabel _) (fun _ => hprice) (.ok none)
  · refine field_locates hv (hlabel _) (fun w hw => ?_) (.ok [])
    exact dictOf_locates hw fun _ hx => listOf_locates hx fun _ => PropertyValue.read_locates
  · exact field_locates hv (hlabel _) (fun _ hw => listOf_locates hw fun _ => TaxonId.read_locates)
      (.ok [])
  · exact field_locates hv (hlabel _) (fun w hw => scalar_locates hw (.bool? w)) (.ok false)
  · exact field_locates hv (hlabel _) (fun _ => htext) (.ok none)

end Bodies

end FacetSearch
