/-
# FacetSearch.Proofs.OneLevel — escaping adds one level and changes nothing else.

The engine takes one level of escaping away when it reads a query string, so one level is what has
to be added.  A scan from the left that turns every escaped quote into a quote gives the search text
back; the emitted text is longer by one code point for every quote; and whatever holds no quote, the
blanks at both ends among it, is emitted as it stands.
-/
import FacetSearch.Proofs.BareQuotes
import Mathlib.Data.List.Count

namespace FacetSearch

/-! ## What escaping adds -/

theorem length_escapeQuotes (t : Text) :
    (escapeQuotes t).length = t.length + t.count quoteMark := by
  induction t with
  | nil => rfl
  | cons c t ih =>
      by_cases hc : c = quoteMark
      · subst hc
        rw [escapeQuotes_quote, List.count_cons_self]
        simp only [List.length_cons, ih]
        omega
      · rw [escapeQuotes_cons hc, List.count_cons_of_ne hc]
        simp only [List.length_cons, ih]
        omega

/-! ## What escaping keeps -/

theorem escapeQuotes_of_not_mem {t : Text} (h : quoteMark ∉ t) : escapeQuotes t = t := by
  induction t with
  | nil => rfl
  | cons c t ih =>
      rw [List.mem_cons, not_or] at h
      rw [escapeQuotes_cons (Ne.symm h.1), ih h.2]

theorem quoteMark_not_mem_of_blank {t : Text} (h : t.isBlank = true) : quoteMark ∉ t := by
  intro hquote
  have hblank : quoteMark.isBlank = true := List.all_eq_true.mp h _ hquote
  exact absurd hblank (by decide)

/-- An emitted text is the search text with one level of escaping and nothing else changed. -/
structure AddsOneLevel (t emitted : Text) : Prop where
  unescaped : unescapeQuotes emitted = t
  length : emitted.length = t.length + t.count quoteMark
  /-- Where no quote stands, the text goes through as it is. -/
  stretch : ∀ before kept after, t = before ++ kept ++ after → quoteMark ∉ kept →
    emitted = escapeQuotes before ++ kept ++ escapeQuotes after
  /-- Blanks at the ends are neither dropped nor changed. -/
  blanks : ∀ lead core trail, t = lead ++ core ++ trail → lead.isBlank = true →
    trail.isBlank = true → emitted = lead ++ escapeQuotes core ++ trail

theorem addsOneLevel_escapeQuotes (t : Text) : AddsOneLevel t (escapeQuotes t) where
  unescaped := unescapeQuotes_escapeQuotes t
  length := length_escapeQuotes t
  stretch := by
    rintro before kept after rfl hkept
    rw [escapeQuotes_append, escapeQuotes_append, escapeQuotes_of_not_mem hkept]
  blanks := by
    rintro lead core trail rfl hlead htrail
    rw [escapeQuotes_append, escapeQuotes_append,
      escapeQuotes_of_not_mem (quoteMark_not_mem_of_blank hlead),
      escapeQuotes_of_not_mem (quoteMark_not_mem_of_blank htrail)]

/-! ## Search texts and their clauses -/

/-- Clauses of search texts that are not blank are alike only for one text. -/
theorem TextClause.ofQuery_toValue_inj {s t : Text} (hs : s.isBlank = false)
    (ht : t.isBlank = false) :
    (ofQuery (some s)).toValue = (ofQuery (some t)).toValue ↔ s = t := by
  rw [toValue_injective.eq_iff, ofQuery_text hs, ofQuery_text ht, queryString.injEq,
    escapeQuotes_injective.eq_iff]

/-- **Escaping adds exactly one level.**  It is undone by one scan, adds one code point for every
quote and goes piece by piece; a search text that is not blank is emitted in this form, with nothing
else changed, and different search texts are different clauses. -/
theorem escaping_adds_one_level :
    (∀ t, AddsOneLevel t (escapeQuotes t)) ∧
      (∀ s t, escapeQuotes (s ++ t) = escapeQuotes s ++ escapeQuotes t) ∧
      (∀ t, t.isBlank = false → ∃ emitted,
        TextClause.ofQuery (some t) = .queryString emitted ∧ AddsOneLevel t emitted) ∧
      ∀ s t, s.isBlank = false → t.isBlank = false → s ≠ t →
        (TextClause.ofQuery (some s)).toValue ≠ (TextClause.ofQuery (some t)).toValue := by
  refine ⟨addsOneLevel_escapeQuotes, escapeQuotes_append, fun t ht => ?_, fun s t hs ht hne => ?_⟩
  · exact ⟨escapeQuotes t, TextClause.ofQuery_text ht, addsOneLevel_escapeQuotes t⟩
  · exact fun halike => hne ((TextClause.ofQuery_toValue_inj hs ht).mp halike)

/-- A search text between blanks, with one quote alone and one after a backslash. -/
def spacedQuotes : Text := " a\"b\\\" "

/-- The same text as it is after one level of escaping. -/
def spacedQuotesEscaped : Text := " a\\\"b\\\\\" "

theorem escaping_adds_one_level_spaced :
    (spacedQuotes.isBlank = false ∧ spacedQuotesEscaped.isBlank = false) ∧
      TextClause.ofQuery (some spacedQuotes) = .queryString spacedQuotesEscaped ∧
      AddsOneLevel spacedQuotes spacedQuotesEscaped ∧
      (TextClause.ofQuery (some spacedQuotes)).toValue ≠
        (TextClause.ofQuery (some spacedQuotesEscaped)).toValue := by
  have hblank : spacedQuotes.isBlank = false := by decide
  have hblank' : spacedQuotesEscaped.isBlank = false := by decide
  have hescaped : TextClause.ofQuery (some spacedQuotes) = .queryString spacedQuotesEscaped := by
    decide
  obtain ⟨-, -, hemit, hdistinct⟩ := escaping_adds_one_level
  obtain ⟨emitted, hemitted, honce⟩ := hemit spacedQuotes hblank
  have hsame : emitted = spacedQuotesEscaped :=
    TextClause.queryString.inj (hemitted.symm.trans hescaped)
  exact ⟨⟨hblank, hblank'⟩, hescaped, hsame ▸ honce,
    hdistinct _ _ hblank hblank' (by decide)⟩

end FacetSearch
