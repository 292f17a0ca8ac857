/-
# FacetSearch.Proofs.BareQuotes — which quotes of an emitted query string are still quotes.

The engine reads a backslash together with the code point after it, so a quote is taken literally
exactly if the run of backslashes before it has an odd length.  Escaping puts one backslash before
every quote and leaves the others alone: it makes every run before a quote longer by one.  A quote
that the user wrote after an odd run is therefore a quote again.
-/
import FacetSearch.Proofs.WrittenForm
import Mathlib.Algebra.Ring.Parity
import Mathlib.Data.List.Induction

namespace FacetSearch

/-! ## Runs of backslashes -/

namespace Text

/-- The length of the run of backslashes with which a text ends. -/
def endRun (t : Text) : Nat := (t.reverse.takeWhile (· = backslash)).length

/-- Every quote of a text stands after a run of backslashes of such a length. -/
def EveryQuoteAfter (p : Nat → Prop) (t : Text) : Prop :=
  ∀ before after, t = before ++ quoteMark :: after → p (endRun before)

@[simp] theorem endRun_backslash (t : Text) : endRun (t ++ [backslash]) = endRun t + 1 := by
  simp [endRun]

theorem endRun_append_ne {c : CodePoint} (hc : c ≠ backslash) (t : Text) :
    endRun (t ++ [c]) = 0 := by
  simp [endRun, hc]

end Text

/-! ## The reader of query strings -/

namespace QueryReader

/-- Whether the code point after this one is taken literally. -/
def step (literal : Bool) (c : CodePoint) : Bool := !literal && c = backslash

/-- Whether the code point after a text is taken literally. -/
def literalAfter (t : Text) : Bool := t.foldl step false

/-- Whether a reader meets a quote that is not taken literally. -/
def meetsQuote (literal : Bool) : Text → Bool
  | [] => false
  | c :: rest => (!literal && c = quoteMark) || meetsQuote (step literal c) rest

/-- What one code point does to the reader is what it does to the parity of the run. -/
theorem literalAfter_iff (t : Text) : literalAfter t = true ↔ Odd t.endRun := by
  induction t using List.reverseRecOn with
  | nil => decide
  | append_singleton t c ih =>
      have hstep : literalAfter (t ++ [c]) = step (literalAfter t) c := List.foldl_append ..
      rw [hstep]
      by_cases hc : c = backslash
      · subst hc
        rw [Text.endRun_backslash, Nat.odd_add_one, ← ih]
        simp [step]
      · rw [Text.endRun_append_ne hc]
        simp [step, hc]

theorem meetsQuote_iff (literal : Bool) (t : Text) :
    meetsQuote literal t = true ↔
      ∃ before after, t = before ++ quoteMark :: after ∧ before.foldl step literal = false := by
  induction t generalizing literal with
  | nil => simp [meetsQuote]
  | cons c rest ih =>
      rw [meetsQuote, Bool.or_eq_true, ih]
      constructor
      · rintro (hhere | ⟨before, after, rfl, hbefore⟩)
        · simp only [Bool.and_eq_true, Bool.not_eq_true', decide_eq_true_eq] at hhere
          exact ⟨[], rest, by rw [hhere.2]; rfl, hhere.1⟩
        · exact ⟨c :: before, after, rfl, hbefore⟩
      · rintro ⟨before, after, hsplit, hbefore⟩
        cases before with
        | nil =>
            -- the quote is the first code point, so the reader is as it was
            obtain ⟨rfl, rfl⟩ := List.cons.inj hsplit
            have hliteral : literal = false := hbefore
            exact Or.inl (by simp [hliteral])
        | cons d before =>
            obtain ⟨rfl, rfl⟩ := List.cons.inj hsplit
            exact Or.inr ⟨before, after, rfl, hbefore⟩

/-- **A reader meets no quote exactly if every quote stands after an odd run of backslashes.** -/
theorem meetsQuote_eq_false_iff (t : Text) :
    meetsQuote false t = false ↔ t.EveryQuoteAfter Odd := by
  rw [← Bool.not_eq_true, meetsQuote_iff]
  constructor
  · intro h before after hsplit
    rw [← literalAfter_iff]
    by_contra hbare
    exact h ⟨before, after, hsplit, Bool.not_eq_true _ ▸ hbare⟩
  · rintro h ⟨before, after, hsplit, hbare⟩
    have hliteral : literalAfter before = true := (literalAfter_iff before).mpr (h _ _ hsplit)
    exact absurd (hliteral.symm.trans hbare) (by decide)

end QueryReader

/-! ## Escaping -/

theorem escapeQuotes_append (s t : Text) :
    escapeQuotes (s ++ t) = escapeQuotes s ++ escapeQuotes t := List.flatMap_append ..

/-- Escaping keeps the run of backslashes with which a text ends. -/
theorem endRun_escapeQuotes (t : Text) : (escapeQuotes t).endRun = t.endRun := by
  induction t using List.reverseRecOn with
  | nil => rfl
  | append_singleton t c ih =>
      rw [escapeQuotes_append]
      by_cases hquote : c = quoteMark
      · -- a text that ends with a quote ends with one when it is escaped
        have hlast : escapeQuotes t ++ escapeQuotes [c] =
            (escapeQuotes t ++ [backslash]) ++ [c] := by
          rw [hquote, escapeQuotes_quote, escapeQuotes_nil, List.append_assoc]
          rfl
        have hc : c ≠ backslash := hquote ▸ backslash_ne_quoteMark.symm
        rw [hlast, Text.endRun_append_ne hc, Text.endRun_append_ne hc]
      · rw [escapeQuotes_cons hquote, escapeQuotes_nil]
        by_cases hc : c = backslash
        · rw [hc, Text.endRun_backslash, Text.endRun_backslash, ih]
        · rw [Text.endRun_append_ne hc, Text.endRun_append_ne hc]

/-- The quotes of an escaped text are those of the text, each after a backslash of its own. -/
theorem escapeQuotes_eq_append_quote {t before after : Text}
    (h : escapeQuotes t = before ++ quoteMark :: after) :
    ∃ s r, t = s ++ quoteMark :: r ∧ before = escapeQuotes s ++ [backslash] := by
  induction t generalizing before with
  | nil => exact absurd h (by simp [escapeQuotes_nil])
  | cons c rest ih =>
      by_cases hquote : c = quoteMark
      · subst hquote
        rw [escapeQuotes_quote] at h
        rcases before with _ | ⟨d, before⟩
        · exact absurd (List.cons.inj h).1 backslash_ne_quoteMark
        obtain ⟨rfl, hafter⟩ := List.cons.inj h
        rcases before with _ | ⟨d, before⟩
        · exact ⟨[], rest, rfl, rfl⟩
        obtain ⟨rfl, hrest⟩ := List.cons.inj hafter
        obtain ⟨s, r, rfl, rfl⟩ := ih hrest
        exact ⟨quoteMark :: s, r, rfl, rfl⟩
      · rw [escapeQuotes_cons hquote] at h
        rcases before with _ | ⟨d, before⟩
        · exact absurd (List.cons.inj h).1 hquote
        obtain ⟨rfl, hrest⟩ := List.cons.inj h
        obtain ⟨s, r, rfl, rfl⟩ := ih hrest
        refine ⟨c :: s, r, rfl, ?_⟩
        rw [escapeQuotes_cons hquote]
        rfl

/-- The run before a quote grows by one. -/
theorem everyQuoteAfter_escapeQuotes_iff {p : Nat → Prop} {t : Text} :
    (escapeQuotes t).EveryQuoteAfter p ↔ t.EveryQuoteAfter fun n => p (n + 1) := by
  constructor
  · rintro h before after rfl
    have hsplit : escapeQuotes (before ++ quoteMark :: after) =
        (escapeQuotes before ++ [backslash]) ++ quoteMark :: escapeQuotes after := by
      rw [escapeQuotes_append, escapeQuotes_quote, List.append_assoc]
      rfl
    have hrun := h _ _ hsplit
    rwa [Text.endRun_backslash, endRun_escapeQuotes] at hrun
  · intro h before after hsplit
    obtain ⟨s, r, rfl, rfl⟩ := escapeQuotes_eq_append_quote hsplit
    rw [Text.endRun_backslash, endRun_escapeQuotes]
    exact h s r rfl

/-- **Which search texts have their quotes neutralised.**  A text that is not blank is emitted as a
query string in which every quote stands after an odd run of backslashes, and in which a reader
meets no quote, exactly if in the text itself every quote stands after an even run: a quote that
already stood after a backslash, as in a text that was escaped before, becomes bare. -/
theorem quotes_neutralised_iff {t : Text} (h : t.isBlank = false) :
    ∃ emitted, TextClause.ofQuery (some t) = .queryString emitted ∧
      (emitted.EveryQuoteAfter Odd ↔ t.EveryQuoteAfter Even) ∧
      (QueryReader.meetsQuote false emitted = false ↔ t.EveryQuoteAfter Even) := by
  have hruns : (escapeQuotes t).EveryQuoteAfter Odd ↔ t.EveryQuoteAfter Even := by
    rw [everyQuoteAfter_escapeQuotes_iff]
    simp only [Nat.odd_add_one, Nat.not_odd_iff_even]
  refine ⟨escapeQuotes t, ?_, hruns, ?_⟩
  · rw [TextClause.ofQuery, h]
    rfl
  · rw [QueryReader.meetsQuote_eq_false_iff, hruns]

/-- A text with a quote after two backslashes and another one after none. -/
def doublyEscaped : Text := "\\\\\"x\""

theorem quotes_neutralised_doublyEscaped :
    doublyEscaped.isBlank = false ∧ doublyEscaped.EveryQuoteAfter Even ∧
      ∃ emitted, TextClause.ofQuery (some doublyEscaped) = .queryString emitted ∧
        emitted.EveryQuoteAfter Odd ∧ QueryReader.meetsQuote false emitted = false := by
  have hblank : doublyEscaped.isBlank = false := by decide
  obtain ⟨emitted, hemitted, hruns, hreader⟩ := quotes_neutralised_iff hblank
  have hescaped : TextClause.ofQuery (some doublyEscaped) =
      .queryString "\\\\\\\"x\\\"" := by decide
  have hmeets : QueryReader.meetsQuote false emitted = false := by
    rw [TextClause.queryString.inj (hemitted.symm.trans hescaped)]
    decide
  have heven := hreader.mp hmeets
  exact ⟨hblank, heven, emitted, hemitted, hruns.mpr heven, hmeets⟩

/-- A text with a quote after one backslash. -/
def escapedOnce : Text := "\\\""

/-- The quote of a text that was escaped before is bare in the query string. -/
theorem escapedOnce_not_neutralised :
    escapedOnce.isBlank = false ∧
      TextClause.ofQuery (some escapedOnce) = .queryString "\\\\\"" ∧
      ¬ Text.EveryQuoteAfter Odd "\\\\\"" ∧
      QueryReader.meetsQuote false "\\\\\"" = true := by
  have hmeets : QueryReader.meetsQuote false "\\\\\"" = true := by decide
  refine ⟨by decide, by decide, ?_, hmeets⟩
  rw [← QueryReader.meetsQuote_eq_false_iff, hmeets]
  decide

end FacetSearch
