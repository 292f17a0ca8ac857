/-
# FacetSearch.Proofs.FirstOccurrences — what is left when repeats are dropped.

Two operations drop repeats.  `distinct` keeps every member of a list once, in the order in which
the members first occur.  `collectNamed` keeps every name once, in the same order, and of what was
set under a name the last.  Both say exactly what is kept, so whatever is built from them can be
compared with the input.
-/
import FacetSearch.Proofs.Reading
import Mathlib.Data.List.Induction

namespace FacetSearch

variable {α : Type}

/-- `ys` has the members of `xs` once each, in the order in which they first occur in `xs`. -/
structure FirstOccurrences [DecidableEq α] (xs ys : List α) : Prop where
  nodup : ys.Nodup
  mem_iff : ∀ a, a ∈ ys ↔ a ∈ xs
  order : ys.Pairwise fun a b => xs.idxOf a < xs.idxOf b

/-- `a` was set last under a name: what was set later has other names. -/
def LastUnder (pairs : List (Text × α)) (name : Text) (a : α) : Prop :=
  ∃ before after, pairs = before ++ (name, a) :: after ∧ name ∉ after.map Prod.fst

/-! ## Members -/

section Distinct

variable [DecidableEq α]

theorem mem_distinct_iff {xs : List α} {a : α} : a ∈ distinct xs ↔ a ∈ xs := by
  induction xs with
  | nil => exact Iff.rfl
  | cons x xs ih =>
      by_cases h : a = x
      · simp [distinct, h]
      · simp [distinct, h, ih]

theorem distinct_nodup (xs : List α) : (distinct xs).Nodup := by
  induction xs with
  | nil => exact List.nodup_nil
  | cons x xs ih =>
      refine List.nodup_cons.mpr ⟨?_, ih.filter _⟩
      simp [List.mem_filter]

/-- Nothing is dropped where nothing is repeated. -/
theorem distinct_eq_self {xs : List α} (h : xs.Nodup) : distinct xs = xs := by
  induction xs with
  | nil => rfl
  | cons x xs ih =>
      obtain ⟨hx, hxs⟩ := List.nodup_cons.mp h
      rw [distinct, ih hxs, List.filter_eq_self.mpr]
      intro a ha
      simpa using fun heq : a = x => hx (heq ▸ ha)

theorem distinct_order (xs : List α) :
    (distinct xs).Pairwise fun a b => xs.idxOf a < xs.idxOf b := by
  induction xs with
  | nil => exact .nil
  | cons x xs ih =>
      -- what is kept of the rest differs from the head, so all of it stands one place later
      have hlater {a : α} (ha : a ∈ (distinct xs).filter (· ≠ x)) :
          (x :: xs).idxOf a = xs.idxOf a + 1 := by
        have hne : a ≠ x := by simpa using (List.mem_filter.mp ha).2
        exact List.idxOf_cons_ne xs hne.symm
      refine List.pairwise_cons.mpr ⟨?_, ?_⟩
      · intro a ha
        rw [hlater ha, List.idxOf_cons_self]
        exact Nat.succ_pos _
      · refine List.Pairwise.imp_of_mem ?_ (ih.filter _)
        intro a b ha hb hab
        rw [hlater ha, hlater hb]
        exact Nat.succ_lt_succ hab

theorem distinct_firstOccurrences (xs : List α) : FirstOccurrences xs (distinct xs) :=
  ⟨distinct_nodup xs, fun _ => mem_distinct_iff, distinct_order xs⟩

theorem distinct_append_singleton (xs : List α) (a : α) :
    distinct (xs ++ [a]) = if a ∈ xs then distinct xs else distinct xs ++ [a] := by
  induction xs with
  | nil => rfl
  | cons x xs ih =>
      rw [List.cons_append, distinct, ih]
      by_cases hx : a = x
      · subst hx
        by_cases ha : a ∈ xs <;> simp [distinct, ha]
      · by_cases ha : a ∈ xs <;> simp [distinct, hx, ha]

end Distinct

/-! ## Names -/

theorem collectNamed_append_singleton (pairs : List (Text × α)) (name : Text) (a : α) :
    collectNamed (pairs ++ [(name, a)]) = setNamed (collectNamed pairs) name a :=
  List.foldl_append

/-- Setting a name that is there adds none. -/
theorem setNamed_names {entries : List (Text × α)} {name : Text}
    (h : name ∈ entries.map Prod.fst) (a : α) :
    (setNamed entries name a).map Prod.fst = entries.map Prod.fst := by
  induction entries with
  | nil => exact absurd h List.not_mem_nil
  | cons entry rest ih =>
      obtain ⟨m, b⟩ := entry
      by_cases hname : m = name
      · simp only [setNamed, hname, if_true, List.map_cons]
      · have hrest := (List.mem_cons.mp h).resolve_left (Ne.symm hname)
        simp only [setNamed, hname, if_false, List.map_cons, ih hrest]

/-- The names keep the order in which they first occur. -/
theorem collectNamed_names (pairs : List (Text × α)) :
    (collectNamed pairs).map Prod.fst = distinct (pairs.map Prod.fst) := by
  induction pairs using List.reverseRecOn with
  | nil => rfl
  | append_singleton pairs pair ih =>
      obtain ⟨name, a⟩ := pair
      rw [collectNamed_append_singleton, List.map_append, List.map_singleton,
        distinct_append_singleton]
      by_cases hin : name ∈ pairs.map Prod.fst
      · have hset : name ∈ (collectNamed pairs).map Prod.fst := by rwa [ih, mem_distinct_iff]
        rw [if_pos hin, setNamed_names hset, ih]
      · have hset : name ∉ (collectNamed pairs).map Prod.fst := by rwa [ih, mem_distinct_iff]
        rw [if_neg hin, setNamed_append hset, List.map_append, ih, List.map_singleton]

theorem mem_setNamed_iff {entries : List (Text × α)} (h : (entries.map Prod.fst).Nodup)
    {name : Text} {a : α} {e : Text × α} :
    e ∈ setNamed entries name a ↔ (e ∈ entries ∧ e.1 ≠ name) ∨ e = (name, a) := by
  induction entries with
  | nil => simp [setNamed]
  | cons entry rest ih =>
      obtain ⟨m, b⟩ := entry
      obtain ⟨hm, hrest⟩ := List.nodup_cons.mp h
      by_cases hname : m = name
      · -- the name stands here and nowhere else
        have hothers : e ∈ rest → e.1 ≠ name := by
          intro he heq
          exact hm (List.mem_map.mpr ⟨e, he, heq.trans hname.symm⟩)
        subst hname
        simp only [setNamed, if_true, List.mem_cons]
        constructor
        · rintro (rfl | he)
          · exact Or.inr rfl
          · exact Or.inl ⟨Or.inr he, hothers he⟩
        · rintro (⟨rfl | he, hne⟩ | rfl)
          · exact absurd rfl hne
          · exact Or.inr he
          · exact Or.inl rfl
      · simp only [setNamed, hname, if_false, List.mem_cons, ih hrest]
        constructor
        · rintro (rfl | ⟨he, hne⟩ | rfl)
          · exact Or.inl ⟨Or.inl rfl, hname⟩
          · exact Or.inl ⟨Or.inr he, hne⟩
          · exact Or.inr rfl
        · rintro (⟨rfl | he, hne⟩ | rfl)
          · exact Or.inl rfl
          · exact Or.inr (Or.inl ⟨he, hne⟩)
          · exact Or.inr (Or.inr rfl)

theorem lastUnder_append_singleton {pairs : List (Text × α)} {name name' : Text} {a a' : α} :
    LastUnder (pairs ++ [(name', a')]) name a ↔
      (LastUnder pairs name a ∧ name ≠ name') ∨ (name, a) = (name', a') := by
  constructor
  · rintro ⟨before, after, heq, hafter⟩
    rcases List.eq_nil_or_concat after with rfl | ⟨init, last, rfl⟩
    · obtain ⟨-, hlast⟩ := List.append_inj' heq rfl
      exact Or.inr (List.singleton_inj.mp hlast).symm
    · rw [List.concat_eq_append, ← List.cons_append, ← List.append_assoc] at heq
      rw [List.concat_eq_append] at hafter
      obtain ⟨hpairs, hlast⟩ := List.append_inj' heq rfl
      obtain rfl := List.singleton_inj.mp hlast
      simp only [List.map_append, List.map_singleton, List.mem_append, List.mem_singleton,
        not_or] at hafter
      exact Or.inl ⟨⟨before, init, hpairs, hafter.1⟩, hafter.2⟩
  · rintro (⟨⟨before, after, rfl, hafter⟩, hne⟩ | heq)
    · refine ⟨before, after ++ [(name', a')], by simp, ?_⟩
      simp only [List.map_append, List.map_singleton, List.mem_append, List.mem_singleton]
      exact not_or.mpr ⟨hafter, hne⟩
    · exact ⟨pairs, [], by rw [heq], List.not_mem_nil⟩

/-- **Under each name stands what was set last.** -/
theorem mem_collectNamed_iff {pairs : List (Text × α)} {name : Text} {a : α} :
    (name, a) ∈ collectNamed pairs ↔ LastUnder pairs name a := by
  induction pairs using List.reverseRecOn with
  | nil =>
      refine iff_of_false List.not_mem_nil ?_
      rintro ⟨before, after, heq, -⟩
      exact absurd heq (by simp)
  | append_singleton pairs pair ih =>
      rw [collectNamed_append_singleton, mem_setNamed_iff (collectNamed_nodup pairs), ih,
        lastUnder_append_singleton]

end FacetSearch
