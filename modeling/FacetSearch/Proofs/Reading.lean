/-
# FacetSearch.Proofs.Reading — when a reading succeeds, and with what.

A reading collects every issue, so it succeeds exactly if all of its parts do, and then each part of
the result is what was read of the part of the input.  Names that are set one after another keep
this correspondence: `collectNamed` does not look at what stands under a name.
-/
import FacetSearch.Validation.Collection
import Mathlib.Data.List.Forall2
import Mathlib.Data.List.Nodup

namespace FacetSearch

theorem forall_mem_of_forall₂ {α β : Type} {R : α → β → Prop} {p : β → Prop} {xs : List α}
    {ys : List β} (h : List.Forall₂ R xs ys) (hR : ∀ x y, R x y → p y) : ∀ y ∈ ys, p y := by
  induction h with
  | nil => exact nofun
  | cons hhead _ ih => exact List.forall_mem_cons.mpr ⟨hR _ _ hhead, ih⟩

/-! ## Joined readings -/

namespace Checked

variable {α β : Type}

@[simp] theorem ap_ok (f : α → β) (a : α) : Checked.ap (.ok f) (.ok a) = .ok (f a) := rfl

theorem ap_eq_ok_iff {f : Checked (α → β)} {a : Checked α} {b : β} :
    Checked.ap f a = .ok b ↔ ∃ g x, f = .ok g ∧ a = .ok x ∧ g x = b := by
  cases f <;> cases a <;> simp [Checked.ap]

theorem under_eq_ok_iff {step : Step} {c : Checked α} {a : α} :
    Checked.under step c = .ok a ↔ c = .ok a := by
  cases c <;> simp [Checked.under]

theorem map_eq_ok_iff {ε : Type} {c : Except ε α} {f : α → β} {b : β} :
    c.map f = .ok b ↔ ∃ a, c = .ok a ∧ f a = b := by
  cases c <;> simp [Except.map]

theorem mapError_eq_ok_iff {ε ε' : Type} {c : Except ε α} {f : ε → ε'} {a : α} :
    c.mapError f = .ok a ↔ c = .ok a := by
  cases c <;> simp [Except.mapError]

theorem eq_ok_of_toOption {ε : Type} {c : Except ε α} {a : α} (h : c.toOption = some a) :
    c = .ok a := by
  cases c with
  | ok b => rw [Option.some.inj h]
  | error e => exact absurd h nofun

theorem both_eq_ok_iff {a : Checked α} {b : Checked β} {pair : α × β} :
    Checked.both a b = .ok pair ↔ a = .ok pair.1 ∧ b = .ok pair.2 := by
  rw [Checked.both, ap_eq_ok_iff]
  constructor
  · rintro ⟨g, y, hg, rfl, rfl⟩
    obtain ⟨x, rfl, rfl⟩ := map_eq_ok_iff.mp hg
    exact ⟨rfl, rfl⟩
  · rintro ⟨ha, hb⟩
    refine ⟨Prod.mk pair.1, pair.2, ?_, hb, rfl⟩
    rw [ha]
    rfl

/-- A list is read exactly if each of its members is, wherever the counting starts. -/
theorem each_eq_ok_iff {read : Value → Checked α} {start : Nat} {xs : List Value}
    {as : List α} :
    Checked.each read start xs = .ok as ↔ List.Forall₂ (fun x a => read x = .ok a) xs as := by
  induction xs generalizing start as with
  | nil =>
      rw [Checked.each, List.forall₂_nil_left_iff]
      exact ⟨fun h => (Except.ok.inj h).symm, fun h => h ▸ rfl⟩
  | cons x xs ih =>
      rw [Checked.each, ap_eq_ok_iff, List.forall₂_cons_left_iff]
      constructor
      · rintro ⟨g, rest, hg, hrest, rfl⟩
        obtain ⟨a, ha, rfl⟩ := map_eq_ok_iff.mp hg
        exact ⟨a, rest, under_eq_ok_iff.mp ha, ih.mp hrest, rfl⟩
      · rintro ⟨a, rest, ha, hrest, rfl⟩
        refine ⟨List.cons a, rest, ?_, ih.mpr hrest, rfl⟩
        rw [map_eq_ok_iff]
        exact ⟨a, under_eq_ok_iff.mpr ha, rfl⟩

end Checked

/-! ## Names set one after another -/

section Named

variable {α β : Type} (f : α → β)

/-- What stands under each name, in another form. -/
def mapNamed (entries : List (Text × α)) : List (Text × β) :=
  entries.map fun (name, a) => (name, f a)

theorem setNamed_mapNamed (entries : List (Text × α)) (name : Text) (a : α) :
    setNamed (mapNamed f entries) name (f a) = mapNamed f (setNamed entries name a) := by
  induction entries with
  | nil => rfl
  | cons entry rest ih =>
      obtain ⟨n, b⟩ := entry
      by_cases h : n = name
      · simp [mapNamed, setNamed, h]
      · have htail := congrArg (List.cons (n, f b)) ih
        simpa [mapNamed, setNamed, h] using htail

theorem collectNamed_mapNamed (pairs : List (Text × α)) :
    collectNamed (mapNamed f pairs) = mapNamed f (collectNamed pairs) := by
  -- the entries that are already set are in the other form on the left
  suffices h : ∀ entries : List (Text × α),
      (mapNamed f pairs).foldl (fun entries (name, b) => setNamed entries name b)
          (mapNamed f entries) =
        mapNamed f (pairs.foldl (fun entries (name, a) => setNamed entries name a) entries) from
    h []
  induction pairs with
  | nil => exact fun _ => rfl
  | cons pair rest ih =>
      intro entries
      show (mapNamed f rest).foldl _ (setNamed (mapNamed f entries) pair.1 (f pair.2)) = _
      rw [setNamed_mapNamed]
      exact ih (setNamed entries pair.1 pair.2)

theorem mem_setNamed {entries : List (Text × α)} {name : Text} {a : α} {e : Text × α}
    (h : e ∈ setNamed entries name a) : e ∈ entries ∨ e = (name, a) := by
  induction entries with
  | nil => exact Or.inr (List.mem_singleton.mp h)
  | cons entry rest ih =>
      obtain ⟨n, b⟩ := entry
      by_cases hn : n = name
      · simp only [setNamed, hn, if_true, List.mem_cons] at h
        rcases h with h | h
        · exact Or.inr h
        · exact Or.inl (List.mem_cons_of_mem _ h)
      · simp only [setNamed, hn, if_false, List.mem_cons] at h
        rcases h with rfl | h
        · exact Or.inl List.mem_cons_self
        · exact (ih h).imp_left (List.mem_cons_of_mem _)

theorem mem_collectNamed {pairs : List (Text × α)} {e : Text × α}
    (h : e ∈ collectNamed pairs) : e ∈ pairs := by
  suffices hall : ∀ entries : List (Text × α),
      e ∈ pairs.foldl (fun entries (name, a) => setNamed entries name a) entries →
        e ∈ entries ∨ e ∈ pairs from (hall [] h).resolve_left List.not_mem_nil
  clear h
  induction pairs with
  | nil => exact fun _ h => Or.inl h
  | cons pair rest ih =>
      intro entries h
      rcases ih _ h with h | h
      · rcases mem_setNamed h with h | rfl
        · exact Or.inl h
        · exact Or.inr List.mem_cons_self
      · exact Or.inr (List.mem_cons_of_mem _ h)

theorem setNamed_nodup {entries : List (Text × α)} (h : (entries.map Prod.fst).Nodup)
    (name : Text) (a : α) : ((setNamed entries name a).map Prod.fst).Nodup := by
  induction entries with
  | nil => simp [setNamed]
  | cons entry rest ih =>
      obtain ⟨m, b⟩ := entry
      obtain ⟨hm, hrest⟩ := List.nodup_cons.mp h
      by_cases hname : m = name
      · simpa [setNamed, hname] using h
      · simp only [setNamed, hname, if_false, List.map_cons, List.nodup_cons]
        refine ⟨?_, ih hrest⟩
        intro hin
        obtain ⟨e, he, rfl⟩ := List.mem_map.mp hin
        rcases mem_setNamed he with he | rfl
        · exact hm (List.mem_map.mpr ⟨e, he, rfl⟩)
        · exact hname rfl

theorem collectNamed_nodup (pairs : List (Text × α)) :
    ((collectNamed pairs).map Prod.fst).Nodup := by
  -- whatever was set before, as long as its names were distinct
  suffices h : ∀ entries : List (Text × α), (entries.map Prod.fst).Nodup →
      ((pairs.foldl (fun entries (name, a) => setNamed entries name a) entries).map
        Prod.fst).Nodup from h [] List.nodup_nil
  induction pairs with
  | nil => exact fun _ h => h
  | cons pair rest ih => exact fun entries h => ih _ (setNamed_nodup h pair.1 pair.2)

theorem setNamed_append {entries : List (Text × α)} {name : Text}
    (h : name ∉ entries.map Prod.fst) (a : α) :
    setNamed entries name a = entries ++ [(name, a)] := by
  induction entries with
  | nil => rfl
  | cons entry rest ih =>
      obtain ⟨m, b⟩ := entry
      obtain ⟨hm, hrest⟩ := not_or.mp (mt List.mem_cons.mpr h)
      simp only [setNamed, Ne.symm hm, if_false, List.cons_append, ih hrest]

/-- Distinct names lose nothing. -/
theorem collectNamed_eq_self {pairs : List (Text × α)} (h : (pairs.map Prod.fst).Nodup) :
    collectNamed pairs = pairs := by
  suffices hall : ∀ entries : List (Text × α), ((entries ++ pairs).map Prod.fst).Nodup →
      pairs.foldl (fun entries (name, a) => setNamed entries name a) entries = entries ++ pairs from
    hall [] h
  clear h
  induction pairs with
  | nil => exact fun entries _ => (List.append_nil entries).symm
  | cons pair rest ih =>
      intro entries h
      obtain ⟨name, a⟩ := pair
      have hnew : name ∉ entries.map Prod.fst := by
        rw [List.map_append, List.map_cons] at h
        intro hin
        exact List.disjoint_of_nodup_append h hin List.mem_cons_self
      rw [List.foldl_cons]
      -- a name that is new goes to the end, so the order of the pairs is the order of the entries
      show rest.foldl _ (setNamed entries name a) = _
      rw [setNamed_append hnew, ih _ (by simpa using h)]
      simp

theorem collectNamed_idem (pairs : List (Text × α)) :
    collectNamed (collectNamed pairs) = collectNamed pairs :=
  collectNamed_eq_self (collectNamed_nodup pairs)

end Named

/-! ## Collections -/

namespace Validation

variable {α β : Type}

theorem text?_text (t : Text) : text? (.text t) = .ok t := by
  unfold text? wording
  by_cases h : t.isScalar = true <;> simp [Value.text?, h]

theorem scalar_eq_ok_iff {read : Value → Except Problem α} {v : Value} {a : α} :
    scalar read v = .ok a ↔ read v = .ok a := by
  unfold scalar
  cases read v <;> simp [Checked.fail]

theorem scalar_text (t : Text) : scalar text? (.text t) = .ok t :=
  scalar_eq_ok_iff.mpr (text?_text t)

theorem nullable_text (t : Text) : nullable (scalar text?) (.text t) = .ok (some t) :=
  congrArg (Except.map some) (scalar_text t)

theorem key_text (t : Text) : key (.text t) = .ok t := by
  rw [key, scalar_text]
  rfl

theorem listOf_eq_ok_iff {read : Value → Checked α} {v : Value} {as : List α} :
    listOf read v = .ok as ↔
      ∃ xs, v.members? = some xs ∧ List.Forall₂ (fun x a => read x = .ok a) xs as := by
  unfold listOf
  cases v.members? with
  | none => simp [Checked.fail]
  | some xs => simp [Checked.each_eq_ok_iff]

theorem entriesOf_eq_ok_iff {read : Value → Checked α} {entries : List (Value × Value)}
    {pairs : List (Text × α)} :
    entriesOf read entries = .ok pairs ↔
      List.Forall₂ (fun entry pair => key entry.1 = .ok pair.1 ∧ read entry.2 = .ok pair.2)
        entries pairs := by
  induction entries generalizing pairs with
  | nil =>
      rw [entriesOf, List.forall₂_nil_left_iff]
      exact ⟨fun h => (Except.ok.inj h).symm, fun h => h ▸ rfl⟩
  | cons entry rest ih =>
      obtain ⟨k, v⟩ := entry
      rw [entriesOf, Checked.ap_eq_ok_iff, List.forall₂_cons_left_iff]
      constructor
      · rintro ⟨g, tail, hg, htail, rfl⟩
        obtain ⟨pair, hpair, rfl⟩ := Checked.map_eq_ok_iff.mp hg
        obtain ⟨hkey, hvalue⟩ := Checked.both_eq_ok_iff.mp hpair
        exact ⟨pair, tail, ⟨hkey, Checked.under_eq_ok_iff.mp hvalue⟩, ih.mp htail, rfl⟩
      · rintro ⟨pair, tail, ⟨hkey, hvalue⟩, htail, rfl⟩
        refine ⟨List.cons pair, tail, Checked.map_eq_ok_iff.mpr ⟨pair, ?_, rfl⟩, ih.mpr htail, rfl⟩
        exact Checked.both_eq_ok_iff.mpr ⟨hkey, Checked.under_eq_ok_iff.mpr hvalue⟩

theorem dictOf_eq_ok_iff {read : Value → Checked α} {v : Value} {named : List (Text × α)} :
    dictOf read v = .ok named ↔
      ∃ entries pairs, v = .dict entries ∧ collectNamed pairs = named ∧
        List.Forall₂ (fun entry pair => key entry.1 = .ok pair.1 ∧ read entry.2 = .ok pair.2)
          entries pairs := by
  cases v with
  | dict entries => simp [dictOf, Checked.map_eq_ok_iff, entriesOf_eq_ok_iff, and_comm]
  | _ => simp [dictOf, Checked.fail]

/-- A dictionary with names for keys is read name by name. -/
theorem dictOf_named {read : Value → Checked α} {entries : List (Text × Value)}
    {pairs : List (Text × α)}
    (h : List.Forall₂ (fun entry pair => entry.1 = pair.1 ∧ read entry.2 = .ok pair.2)
      entries pairs) :
    dictOf read (.dict (entries.map fun (name, v) => (.text name, v))) =
      .ok (collectNamed pairs) := by
  rw [dictOf_eq_ok_iff]
  refine ⟨_, pairs, rfl, rfl, ?_⟩
  rw [List.forall₂_map_left_iff]
  refine h.imp fun entry pair hread => ⟨?_, hread.2⟩
  rw [← hread.1]
  exact key_text entry.1

/-- A record whose names are distinct reads back as it is. -/
theorem record_toValue {r : Record} (h : (r.map Prod.fst).Nodup) : record r.toValue = .ok r := by
  have hread : record r.toValue = .ok (collectNamed r) :=
    dictOf_named (List.forall₂_same.mpr fun _ _ => ⟨rfl, rfl⟩)
  rw [hread, collectNamed_eq_self h]

theorem field_present {entries : Entries} {name : Text} {v : Value}
    (hget : Entries.get? entries name = some v) {read : Value → Checked α} {a : α}
    (hread : read v = .ok a) (absent : Checked α) : field entries name read absent = .ok a := by
  rw [field, hget]
  exact Checked.under_eq_ok_iff.mpr hread

theorem required_present {entries : Entries} {name : Text} {v : Value}
    (hget : Entries.get? entries name = some v) {read : Value → Checked α} {a : α}
    (hread : read v = .ok a) : required entries name read = .ok a :=
  field_present hget hread _

theorem field_absent {entries : Entries} {name : Text} (hget : Entries.get? entries name = none)
    (read : Value → Checked α) (absent : Checked α) : field entries name read absent = absent := by
  rw [field, hget]

/-- Where a field was read: from what stands under its name, or nowhere. -/
theorem field_eq_ok {entries : Entries} {name : Text} {read : Value → Checked α}
    {absent : Checked α} {a : α} (h : field entries name read absent = .ok a) :
    (∃ v, Entries.get? entries name = some v ∧ read v = .ok a) ∨ absent = .ok a := by
  unfold field at h
  cases hv : Entries.get? entries name with
  | none =>
      rw [hv] at h
      exact Or.inr h
  | some v =>
      rw [hv] at h
      exact Or.inl ⟨v, rfl, Checked.under_eq_ok_iff.mp h⟩

section Transfer

variable {entries entries' : Entries} {f : Value → Value} {read : Value → Checked α}
  {read' : Value → Checked β} {absent : Checked α} {absent' : Checked β}

/-- What two readings make of one field: if the second makes `g a` of whatever the first makes `a`
of, it does so of the field. -/
theorem field_transfer (g : α → β) {name : Text}
    (hget : Entries.get? entries' name = (Entries.get? entries name).map f)
    (hread : ∀ v a, Entries.get? entries name = some v → read v = .ok a → read' (f v) = .ok (g a))
    (habsent : ∀ a, absent = .ok a → absent' = .ok (g a)) {a : α}
    (h : field entries name read absent = .ok a) :
    field entries' name read' absent' = .ok (g a) := by
  unfold field at h ⊢
  rw [hget]
  cases hv : Entries.get? entries name with
  | none =>
      rw [hv] at h
      exact habsent a h
  | some v =>
      rw [hv] at h
      exact Checked.under_eq_ok_iff.mpr (hread v a hv (Checked.under_eq_ok_iff.mp h))

theorem fieldEither_transfer (g : α → β) {name other : Text}
    (hget : Entries.get? entries' name = (Entries.get? entries name).map f)
    (hget' : Entries.get? entries' other = (Entries.get? entries other).map f)
    (hread : ∀ v a, read v = .ok a → read' (f v) = .ok (g a))
    (habsent : ∀ a, absent = .ok a → absent' = .ok (g a)) {a : α}
    (h : fieldEither entries name other read absent = .ok a) :
    fieldEither entries' name other read' absent' = .ok (g a) := by
  refine field_transfer g hget (fun v a _ => hread v a) ?_ h
  exact fun a => field_transfer g hget' (fun v a _ => hread v a) habsent

end Transfer

end Validation

end FacetSearch
