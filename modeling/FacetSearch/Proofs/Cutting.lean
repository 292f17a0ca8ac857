/-
# FacetSearch.Proofs.Cutting — texts that are cut at separators.

A cut undoes a joint: what is put together with a separator comes apart again, as long as the
separator stands in no part where the cut could find it first.  And a cut loses nothing but the
separators.
-/
import FacetSearch.Text.Basic

namespace FacetSearch.Text

variable {sep c : CodePoint} {before after t piece : Text}

/-! ## The first and the last separator -/

theorem cutFirst_of_not_mem (h : sep ∉ t) : cutFirst sep t = none := by
  induction t with
  | nil => rfl
  | cons c t ih =>
      rw [List.mem_cons, not_or] at h
      rw [cutFirst, if_neg (Ne.symm h.1), ih h.2]
      rfl

theorem cutFirst_append (h : sep ∉ before) (after : Text) :
    cutFirst sep (before ++ sep :: after) = some (before, after) := by
  induction before with
  | nil => rw [List.nil_append, cutFirst, if_pos rfl]
  | cons c before ih =>
      rw [List.mem_cons, not_or] at h
      rw [List.cons_append, cutFirst, if_neg (Ne.symm h.1), ih h.2]
      rfl

/-- A text is cut at its first separator, or has none. -/
theorem cutFirst_cases (sep : CodePoint) (t : Text) :
    (sep ∉ t ∧ cutFirst sep t = none) ∨
      ∃ before after, t = before ++ sep :: after ∧ sep ∉ before ∧
        cutFirst sep t = some (before, after) := by
  by_cases h : sep ∈ t
  · obtain ⟨before, after, rfl, hbefore⟩ := List.eq_append_cons_of_mem h
    exact .inr ⟨before, after, rfl, hbefore, cutFirst_append hbefore after⟩
  · exact .inl ⟨h, cutFirst_of_not_mem h⟩

theorem after_subset (before : Text) (sep : CodePoint) (after : Text) :
    after ⊆ before ++ sep :: after :=
  List.Subset.trans (List.subset_cons_self _ _) (List.subset_append_right _ _)

/-- What stands before the first separator is a part of the text. -/
theorem fst_cutFirst_subset (sep : CodePoint) (t : Text) :
    ((cutFirst sep t).getD (t, [])).1 ⊆ t := by
  rcases cutFirst_cases sep t with ⟨-, hcut⟩ | ⟨before, after, rfl, -, hcut⟩
  · rw [hcut]
    exact List.Subset.refl t
  · rw [hcut]
    exact List.subset_append_left _ _

theorem cutLast_of_not_mem (h : sep ∉ t) : cutLast sep t = none := by
  induction t with
  | nil => rfl
  | cons c t ih =>
      rw [List.mem_cons, not_or] at h
      rw [cutLast, ih h.2]
      simp only [if_neg (Ne.symm h.1)]

theorem cutLast_append (before : Text) (h : sep ∉ after) :
    cutLast sep (before ++ sep :: after) = some (before, after) := by
  induction before with
  | nil =>
      rw [List.nil_append, cutLast, cutLast_of_not_mem h]
      simp only [if_true]
  | cons c before ih => rw [List.cons_append, cutLast, ih]

/-- A text is cut at its last separator, or has none. -/
theorem cutLast_cases (sep : CodePoint) (t : Text) :
    (sep ∉ t ∧ cutLast sep t = none) ∨
      ∃ before after, t = before ++ sep :: after ∧ sep ∉ after ∧
        cutLast sep t = some (before, after) := by
  by_cases h : sep ∈ t
  · -- the last separator is the first one from behind
    obtain ⟨after, before, hreverse, hafter⟩ :=
      List.eq_append_cons_of_mem (List.mem_reverse.mpr h)
    have ht : t = before.reverse ++ sep :: after.reverse := by
      rw [← List.reverse_reverse t, hreverse, List.reverse_append, List.reverse_cons,
        List.append_assoc]
      rfl
    have hfree : sep ∉ after.reverse := fun hmem => hafter (List.mem_reverse.mp hmem)
    exact .inr ⟨_, _, ht, hfree, ht ▸ cutLast_append _ hfree⟩
  · exact .inl ⟨h, cutLast_of_not_mem h⟩

theorem dropLead?_eq_some_iff {lead rest : Text} :
    dropLead? lead t = some rest ↔ t = lead ++ rest := by
  induction lead generalizing t with
  | nil => exact Option.some_inj
  | cons a lead ih =>
      cases t with
      | nil => simp [dropLead?]
      | cons c t =>
          rw [dropLead?, List.cons_append, List.cons.injEq, ← ih, eq_comm (a := c)]
          split
          · next hac => simp [hac]
          · next hac => simp [hac]

/-! ## All separators -/

theorem join_cons_cons (sep t u : Text) (ts : List Text) :
    join sep (t :: u :: ts) = t ++ (sep ++ join sep (u :: ts)) :=
  List.append_assoc _ _ _

theorem splitOn_ne_nil (sep : CodePoint) (t : Text) : splitOn sep t ≠ [] := by
  induction t with
  | nil => simp [splitOn]
  | cons c t ih =>
      rw [splitOn]
      split
      · simp
      · split <;> simp

theorem splitOn_cons_of_ne (h : c ≠ sep) (t : Text) :
    ∃ piece pieces, splitOn sep t = piece :: pieces ∧
      splitOn sep (c :: t) = (c :: piece) :: pieces := by
  obtain ⟨piece, pieces, hpieces⟩ := List.exists_cons_of_ne_nil (splitOn_ne_nil sep t)
  refine ⟨piece, pieces, hpieces, ?_⟩
  rw [splitOn, hpieces]
  simp only [if_neg h]

theorem splitOn_cons_self (sep : CodePoint) (t : Text) :
    splitOn sep (sep :: t) = [] :: splitOn sep t := by
  obtain ⟨piece, pieces, hpieces⟩ := List.exists_cons_of_ne_nil (splitOn_ne_nil sep t)
  rw [splitOn, hpieces]
  simp only [if_true]

theorem splitOn_of_not_mem (h : sep ∉ t) : splitOn sep t = [t] := by
  induction t with
  | nil => rfl
  | cons c t ih =>
      rw [List.mem_cons, not_or] at h
      obtain ⟨piece, pieces, hpieces, hcons⟩ := splitOn_cons_of_ne (Ne.symm h.1) t
      rw [ih h.2] at hpieces
      obtain ⟨rfl, rfl⟩ := List.cons.inj hpieces
      exact hcons

theorem splitOn_append (h : sep ∉ piece) (t : Text) :
    splitOn sep (piece ++ sep :: t) = piece :: splitOn sep t := by
  induction piece with
  | nil => exact splitOn_cons_self sep t
  | cons c piece ih =>
      rw [List.mem_cons, not_or] at h
      obtain ⟨first, pieces, hpieces, hcons⟩ :=
        splitOn_cons_of_ne (Ne.symm h.1) (piece ++ sep :: t)
      rw [ih h.2] at hpieces
      obtain ⟨rfl, rfl⟩ := List.cons.inj hpieces
      exact hcons

/-- **Splitting undoes joining.** -/
theorem splitOn_join {pieces : List Text} (hne : pieces ≠ [])
    (h : ∀ piece ∈ pieces, sep ∉ piece) : splitOn sep (join [sep] pieces) = pieces := by
  induction pieces with
  | nil => exact absurd rfl hne
  | cons piece pieces ih =>
      obtain ⟨hpiece, hpieces⟩ := List.forall_mem_cons.mp h
      cases pieces with
      | nil => exact splitOn_of_not_mem hpiece
      | cons next pieces =>
          rw [join_cons_cons]
          exact (splitOn_append hpiece _).trans
            (congrArg (piece :: ·) (ih (List.cons_ne_nil _ _) hpieces))

/-- The code points of the pieces are those of the text but the separator. -/
theorem exists_mem_splitOn_iff : (∃ piece ∈ splitOn sep t, c ∈ piece) ↔ c ∈ t ∧ c ≠ sep := by
  induction t with
  | nil => simp [splitOn]
  | cons d t ih =>
      by_cases hd : d = sep
      · subst hd
        rw [splitOn_cons_self, List.mem_cons]
        simp only [List.mem_cons, exists_eq_or_imp, List.not_mem_nil, false_or, ih]
        constructor
        · exact fun ⟨hc, hne⟩ => ⟨.inr hc, hne⟩
        · exact fun ⟨hc, hne⟩ => ⟨hc.resolve_left hne, hne⟩
      · obtain ⟨piece, pieces, hpieces, hcons⟩ := splitOn_cons_of_ne hd t
        rw [hpieces] at ih
        simp only [List.mem_cons, exists_eq_or_imp] at ih
        simp only [hcons, List.mem_cons, exists_eq_or_imp, or_assoc, ih]
        constructor
        · rintro (rfl | ⟨hc, hne⟩)
          · exact ⟨.inl rfl, hd⟩
          · exact ⟨.inr hc, hne⟩
        · rintro ⟨rfl | hc, hne⟩
          · exact .inl rfl
          · exact .inr ⟨hc, hne⟩

/-- What is joined holds the code points of the pieces and those between them. -/
theorem mem_join {between : Text} {pieces : List Text} (h : c ∈ join between pieces) :
    c ∈ between ∨ ∃ piece ∈ pieces, c ∈ piece := by
  induction pieces with
  | nil => exact absurd h List.not_mem_nil
  | cons piece pieces ih =>
      cases pieces with
      | nil => exact .inr ⟨piece, List.mem_singleton_self _, h⟩
      | cons next pieces =>
          rw [join_cons_cons, List.mem_append, List.mem_append] at h
          rcases h with hpiece | hbetween | hrest
          · exact .inr ⟨piece, List.mem_cons_self, hpiece⟩
          · exact .inl hbetween
          · exact (ih hrest).imp_right fun ⟨t, ht, hc⟩ => ⟨t, List.mem_cons_of_mem _ ht, hc⟩

theorem join_append {xs ys : List Text} (hx : xs ≠ []) (hy : ys ≠ []) (sep : Text) :
    join sep (xs ++ ys) = join sep xs ++ sep ++ join sep ys := by
  induction xs with
  | nil => exact absurd rfl hx
  | cons x xs ih =>
      cases xs with
      | nil =>
          obtain ⟨y, ys, rfl⟩ := List.exists_cons_of_ne_nil hy
          rfl
      | cons x' xs =>
          rw [List.cons_append, List.cons_append, join_cons_cons, ← List.cons_append,
            ih (List.cons_ne_nil _ _), join_cons_cons]
          simp only [List.append_assoc]

end FacetSearch.Text
