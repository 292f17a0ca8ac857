/-
# FacetSearch.Proofs.Absence — null is absence, and no sorting is refused.

Every field of the parameters takes null for what it takes where nothing stands, so the entries
that hold null under a known name can be left out: the same parameters are read, or the same issues
in the same order.  The offset alone has two names, and a null under the first hides what stands
under the second.  What stands under the name of the sorting never is an issue and leaves the other
fields alone, whatever it is; that it names a mode is all it can say.
-/
import FacetSearch.Proofs.FixedPoint

namespace FacetSearch

open Validation

/-! ## Dictionaries without some names -/

/-- Whether a value is null. -/
def Value.isNull : Value → Bool
  | .null => true
  | _ => false

theorem Value.isNull_iff {v : Value} : v.isNull = true ↔ v = .null := by
  cases v <;> simp [isNull]

namespace Entries

/-- The entries whose keys are none of the names. -/
def without (names : List Text) (entries : Entries) : Entries :=
  entries.filter fun (k, _) => ∀ name ∈ names, k.text? ≠ some name

theorem get?_cons_self {k : Value} {name : Text} (h : k.text? = some name) (v : Value)
    (rest : Entries) : get? ((k, v) :: rest) name = some v := by
  simp [get?, h]

theorem get?_cons_of_ne {k : Value} {name : Text} (h : k.text? ≠ some name) (v : Value)
    (rest : Entries) : get? ((k, v) :: rest) name = get? rest name := by
  simp [get?, h]

theorem get?_without_of_mem {names : List Text} {name : Text} (h : name ∈ names)
    (entries : Entries) : get? (without names entries) name = none := by
  rw [get?, Option.map_eq_none_iff, List.find?_eq_none]
  rintro ⟨k, v⟩ hmem hk
  obtain ⟨-, hkept⟩ := List.mem_filter.mp hmem
  exact of_decide_eq_true hkept name h (beq_iff_eq.mp hk)

theorem get?_without_of_not_mem {names : List Text} {name : Text} (h : name ∉ names)
    (entries : Entries) : get? (without names entries) name = get? entries name := by
  -- an entry under the name goes by none of those left out
  have hkept (k : Value) : ((∀ other ∈ names, k.text? ≠ some other) ∧ k.text? = some name) ↔
      k.text? = some name := by
    refine and_iff_right_of_imp fun hk other hother hk' => h ?_
    rwa [Option.some.inj (hk.symm.trans hk')]
  simp only [get?, without, List.find?_filter, beq_eq_decide, decide_eq_true_eq, hkept]

theorem get?_insert_self (entries : Entries) (name : Text) (v : Value) :
    get? (insert entries (.text name) v) name = some v := by
  induction entries with
  | nil => exact get?_cons_self rfl v []
  | cons entry rest ih =>
      obtain ⟨k, w⟩ := entry
      rw [insert, Value.sameKey_text]
      by_cases hk : k.text? = some name
      · rw [if_pos (beq_iff_eq.mpr hk), get?_cons_self hk]
      · rw [if_neg (mt beq_iff_eq.mp hk), get?_cons_of_ne hk, ih]

theorem get?_insert_of_ne {name other : Text} (h : other ≠ name) (entries : Entries) (v : Value) :
    get? (insert entries (.text name) v) other = get? entries other := by
  induction entries with
  | nil => exact get?_cons_of_ne (by simpa [Value.text?] using h.symm) v []
  | cons entry rest ih =>
      obtain ⟨k, w⟩ := entry
      rw [insert, Value.sameKey_text]
      by_cases hk : k.text? = some name
      · have hother : k.text? ≠ some other := fun ho => h (Option.some.inj (ho.symm.trans hk))
        rw [if_pos (beq_iff_eq.mpr hk), get?_cons_of_ne hother, get?_cons_of_ne hother]
      · rw [if_neg (mt beq_iff_eq.mp hk)]
        by_cases ho : k.text? = some other
        · rw [get?_cons_self ho, get?_cons_self ho]
        · rw [get?_cons_of_ne ho, get?_cons_of_ne ho, ih]

end Entries

/-! ## Null under a known name -/

/-- The names that parameters are read under. -/
def Params.names : List Text :=
  ["from", "from_", "query", "price_min", "price_max", "properties", "taxon_ids", "browse_mode",
    "sorting"]

/-- The known names under which null stands. -/
def Params.nullNames (entries : Entries) : List Text :=
  names.filter fun name => ((Entries.get? entries name).map Value.isNull).getD false

/-- The entries without those that hold null under a known name. -/
def Params.withoutNulls (entries : Entries) : Entries :=
  Entries.without (nullNames entries) entries

namespace Params

theorem mem_nullNames {entries : Entries} {name : Text} (h : name ∈ names) :
    name ∈ nullNames entries ↔ Entries.get? entries name = some .null := by
  rw [nullNames, List.mem_filter, and_iff_right h]
  cases Entries.get? entries name <;> simp [Value.isNull_iff]

section Nulls

variable {entries : Entries} {name : Text} {α : Type}

theorem get?_withoutNulls_of_null (h : name ∈ names)
    (hnull : Entries.get? entries name = some .null) :
    Entries.get? (withoutNulls entries) name = none :=
  Entries.get?_without_of_mem ((mem_nullNames h).mpr hnull) entries

theorem get?_withoutNulls_of_ne (h : name ∈ names) (hne : Entries.get? entries name ≠ some .null) :
    Entries.get? (withoutNulls entries) name = Entries.get? entries name :=
  Entries.get?_without_of_not_mem (mt (mem_nullNames h).mp hne) entries

/-- A field that takes null for what it takes where nothing stands does not see whether nulls were
left out. -/
theorem field_withoutNulls (read : Value → Checked α) (a : α) (hread : read .null = .ok a)
    (h : name ∈ names) :
    field (withoutNulls entries) name read (.ok a) = field entries name read (.ok a) := by
  by_cases hnull : Entries.get? entries name = some .null
  · have hpresent : field entries name read (.ok a) = .ok a := field_present hnull hread _
    rw [hpresent, field_absent (get?_withoutNulls_of_null h hnull)]
  · rw [field, field, get?_withoutNulls_of_ne h hnull]

/-- One name of the offset at most is there. -/
def OneOffset (entries : Entries) : Prop :=
  Entries.get? entries "from" = none ∨ Entries.get? entries "from_" = none

theorem fieldEither_withoutNulls (read : Value → Checked α) (a : α) (hread : read .null = .ok a)
    (h : OneOffset entries) :
    fieldEither (withoutNulls entries) "from" "from_" read (.ok a) =
      fieldEither entries "from" "from_" read (.ok a) := by
  have hfrom : Text.ofString "from" ∈ names := by decide
  have hsecond : field (withoutNulls entries) "from_" read (.ok a) =
      field entries "from_" read (.ok a) := field_withoutNulls read a hread (by decide)
  rw [fieldEither, fieldEither, hsecond]
  rcases h with hfirst | hsecond
  · have hstays : Entries.get? (withoutNulls entries) "from" = none := by
      rw [get?_withoutNulls_of_ne hfrom (by simp [hfirst]), hfirst]
    rw [field_absent hfirst, field_absent hstays]
  · -- without the second name both readings fall back to what null is taken for
    rw [field_absent hsecond]
    exact field_withoutNulls read a hread hfrom

theorem ofEntries_withoutNulls (h : OneOffset entries) :
    ofEntries (withoutNulls entries) = ofEntries entries := by
  -- eight readings, each of which takes null for its default
  simp (disch := first | decide | assumption) only [ofEntries,
    fieldEither_withoutNulls (fun v => scalar int? (nonNull v (.int 0))) 0 rfl,
    field_withoutNulls (nullable (scalar text?)) none rfl,
    field_withoutNulls (nullable (scalar decimal?)) none rfl,
    field_withoutNulls readProperties [] rfl,
    field_withoutNulls readTaxonIds [] rfl,
    field_withoutNulls (fun v => scalar bool? (nonNull v (.bool false))) false rfl,
    field_withoutNulls (fun v => .ok (readSorting v)) .default rfl]

/-- Null and nothing are all that stands under the known names. -/
def Blank (entries : Entries) : Prop :=
  ∀ name ∈ names, ∀ v, Entries.get? entries name = some v → v = .null

theorem Blank.field_eq (h : Blank entries) (read : Value → Checked α) (a : α)
    (hread : read .null = .ok a) (hname : name ∈ names) :
    field entries name read (.ok a) = .ok a := by
  cases hget : Entries.get? entries name with
  | none => exact field_absent hget _ _
  | some v =>
      obtain rfl := h name hname v hget
      exact field_present hget hread _

/-- The parameters that nothing is said about. -/
def defaults : Params where
  offset := 0
  query := none
  priceMin := none
  priceMax := none
  properties := []
  taxonIds := []
  browseMode := false
  sorting := .default

theorem Blank.read (h : Blank entries) : Params.read (.dict entries) = .ok defaults := by
  refine Accepted.read ⟨?_, ?_, ?_, ?_, ?_, ?_, ?_, ?_⟩
  · rw [fieldEither, h.field_eq _ 0 rfl (by decide)]
    exact h.field_eq _ 0 rfl (by decide)
  · exact h.field_eq _ none rfl (by decide)
  · exact h.field_eq _ none rfl (by decide)
  · exact h.field_eq _ none rfl (by decide)
  · exact h.field_eq _ [] rfl (by decide)
  · exact h.field_eq _ [] rfl (by decide)
  · exact h.field_eq _ false rfl (by decide)
  · exact h.field_eq _ Sorting.default rfl (by decide)

end Nulls

end Params

/-! ## The sorting -/

/-- A value names a mode if it is the mode or its word. -/
def Value.NamesMode (v : Value) (mode : Sorting) : Prop := v = .sorting mode ∨ v = .text mode.label

/-- A value decides on the mode it names, and on the default one if it names none. -/
def Value.DecidesMode (v : Value) (mode : Sorting) : Prop :=
  v.NamesMode mode ∨ (∀ other, ¬ v.NamesMode other) ∧ mode = .default

/-- A word that names no mode stands for the default one. -/
theorem Sorting.ofLabel_of_ne {t : Text} (h : ∀ mode : Sorting, t ≠ mode.label) :
    ofLabel t = .default := by
  have hnone : (all.find? fun mode => mode.label = t) = none := by
    simpa [List.find?_eq_none] using fun mode _ => (h mode).symm
  rw [ofLabel, hnone]
  rfl

theorem Params.readSorting_decides (v : Value) : v.DecidesMode (readSorting v) := by
  by_cases hnamed : ∃ mode, v.NamesMode mode
  · obtain ⟨mode, rfl | rfl⟩ := hnamed
    · exact Or.inl (Or.inl rfl)
    · refine Or.inl (Or.inr ?_)
      rw [readSorting, Sorting.ofLabel_label]
  · have hnone : ∀ mode, ¬ v.NamesMode mode := not_exists.mp hnamed
    refine Or.inr ⟨hnone, ?_⟩
    cases v with
    | sorting mode => exact absurd (Or.inl rfl) (hnone mode)
    | text t => exact Sorting.ofLabel_of_ne fun mode ht => hnone mode (Or.inr (congrArg _ ht))
    | _ => rfl

namespace Checked

variable {α β γ : Type}

theorem ap_ok_right (f : Checked (α → β)) (a : α) : Checked.ap f (.ok a) = f.map (· a) := by
  cases f <;> rfl

theorem map_ap (g : β → γ) (f : Checked (α → β)) (a : Checked α) :
    (Checked.ap f a).map g = Checked.ap (f.map (g ∘ ·)) a := by
  cases f <;> cases a <;> rfl

end Checked

namespace Params

/-- The parameters with another sorting mode. -/
def withSorting (mode : Sorting) (p : Params) : Params := { p with sorting := mode }

section Sorting

variable {entries entries' : Entries}

/-- Dictionaries that differ under the name of the sorting alone are read as the same but for the
mode, and refused for the same. -/
theorem ofEntries_withSorting {mode : Sorting}
    (hother : ∀ name : Text, name ≠ "sorting" →
      Entries.get? entries' name = Entries.get? entries name)
    (hsorting : field entries' "sorting" (fun v => .ok (readSorting v)) (.ok .default) = .ok mode) :
    ofEntries entries' = (ofEntries entries).map (withSorting mode) := by
  have hfield {α : Type} (name : Text) (hname : name ≠ "sorting") (read : Value → Checked α)
      (absent : Checked α) : field entries' name read absent = field entries name read absent := by
    rw [field, field, hother name hname]
  obtain ⟨given, hgiven⟩ : ∃ given, field entries "sorting"
      (fun v => .ok (readSorting v)) (.ok .default) = .ok given := by
    unfold field
    cases Entries.get? entries "sorting" with
    | none => exact ⟨_, rfl⟩
    | some v => exact ⟨_, rfl⟩
  simp (disch := decide) only [ofEntries, fieldEither, hfield, hsorting, hgiven]
  -- the mode is joined last, so setting it commutes with every joining before
  simp only [Checked.ap_ok_right, Checked.map_ap]
  rfl

theorem read_insert_sorting (entries : Entries) (v : Value) :
    read (.dict (Entries.insert entries (.text "sorting") v)) =
      (read (.dict entries)).map (withSorting (readSorting v)) := by
  refine ofEntries_withSorting (fun name h => Entries.get?_insert_of_ne h entries v) ?_
  refine field_present (Entries.get?_insert_self entries _ v) ?_ _
  rfl

theorem read_without_sorting (entries : Entries) :
    read (.dict (Entries.without ["sorting"] entries)) =
      (read (.dict entries)).map (withSorting .default) := by
  refine ofEntries_withSorting (fun name h => ?_) ?_
  · exact Entries.get?_without_of_not_mem (mt List.mem_singleton.mp h) entries
  · exact field_absent (Entries.get?_without_of_mem List.mem_cons_self entries) _ _

end Sorting

end Params

/-- **Null is absence, and no sorting is refused.**  A dictionary with at most one name of the
offset is read without the nulls under its known names as it is read with them, accepted or not, and
nulls alone are read as nothing is.  Whatever is put under the name of the sorting changes the mode
and nothing else, neither another field nor an issue: the mode becomes the one named there, or the
default one if none is named or the entry is left out. -/
theorem null_absent_and_sorting_free (entries : Entries) :
    (Params.OneOffset entries →
      Params.read (.dict (Params.withoutNulls entries)) = Params.read (.dict entries)) ∧
    (Params.Blank entries → Params.read (.dict entries) = .ok Params.defaults) ∧
    Params.read (.dict (Entries.without ["sorting"] entries)) =
      (Params.read (.dict entries)).map (Params.withSorting .default) ∧
    ∀ v : Value, ∃ mode, v.DecidesMode mode ∧
      Params.read (.dict (Entries.insert entries (.text "sorting") v)) =
        (Params.read (.dict entries)).map (Params.withSorting mode) := by
  refine ⟨Params.ofEntries_withoutNulls, Params.Blank.read, Params.read_without_sorting entries,
    fun v => ?_⟩
  exact ⟨Params.readSorting v, Params.readSorting_decides v, Params.read_insert_sorting entries v⟩

/-- Entries with nulls and a price that is none. -/
def pricelessEntries : Entries :=
  [(.text "from_", .null), (.text "query", .null), (.text "price_min", .text "cheap"),
    (.text "taxon_ids", .null), (.text "sorting", .text "score")]

/-- Null under every known name. -/
def nullEntries : Entries := Params.names.map fun name => (.text name, .null)

theorem nullEntries_blank : Params.Blank nullEntries := by
  intro name _ v hget
  obtain ⟨entry, hentry, rfl⟩ := Option.map_eq_some_iff.mp hget
  obtain ⟨other, -, rfl⟩ := List.mem_map.mp (List.mem_of_find?_eq_some hentry)
  rfl

theorem null_absent_and_sorting_free_refused :
    Params.read (.dict nullEntries) = .ok Params.defaults ∧
      ∃ issues, Params.read (.dict pricelessEntries) = .error issues ∧
        Params.read (.dict (Params.withoutNulls pricelessEntries)) = .error issues ∧
        ∀ v, Params.read (.dict (Entries.insert pricelessEntries (.text "sorting") v)) =
          .error issues := by
  obtain ⟨-, hblank, -⟩ := null_absent_and_sorting_free nullEntries
  obtain ⟨hnull, -, -, hsorting⟩ := null_absent_and_sorting_free pricelessEntries
  refine ⟨hblank nullEntries_blank, ?_⟩
  cases hread : Params.read (.dict pricelessEntries) with
  | ok p =>
      have hrefused : (Params.read (.dict pricelessEntries)).toOption = none := by decide +kernel
      rw [hread] at hrefused
      exact absurd hrefused nofun
  | error issues =>
      have hoffset : Params.OneOffset pricelessEntries := Or.inl rfl
      refine ⟨issues, rfl, (hnull hoffset).trans hread, fun v => ?_⟩
      obtain ⟨mode, -, hmode⟩ := hsorting v
      rw [hmode, hread]
      rfl

/-- A null under the first name of the offset hides what stands under the second. -/
example : (Params.read (.dict [(.text "from", .null), (.text "from_", .int 5)])).toOption.map
    Params.offset = some 0 := by decide +kernel

end FacetSearch
