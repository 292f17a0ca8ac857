/-
# FacetSearch.Proofs.WrittenForm — different parts of a query are written differently.

Each part of a query has a form in which the engine takes it, and none of these forms hides
anything: a clause, a text clause, a price range and a sort key can be told from what is written.
For a search text this rests on the escaping of quotes, which never makes two texts one.
-/
import FacetSearch.Query.Compile
import Mathlib.Data.List.Basic

namespace FacetSearch

/-! ## Clauses -/

theorem Field.label_injective : Function.Injective Field.label := by
  intro f g h
  cases f <;> cases g <;> first | rfl | exact absurd h (by decide)

@[simp] theorem Field.label_inj {f g : Field} : f.label = g.label ↔ f = g :=
  Field.label_injective.eq_iff

theorem Term.toValue_injective : Function.Injective Term.toValue := by
  rintro (t | n) (u | m) h <;> simp_all [Term.toValue]

theorem Term.ofTaxonId_injective : Function.Injective Term.ofTaxonId := by
  rintro (n | t) (m | u) h <;> simp_all [Term.ofTaxonId]

namespace Clause

@[simp] theorem single_inj {n m : Text} {v w : Value} :
    single n v = single m w ↔ n = m ∧ v = w := by
  simp [single]

mutual

/-- A clause can be told from its written form. -/
theorem toValue_inj : ∀ {c d : Clause}, toValue c = toValue d → c = d
  | .terms f l, d, h => by
      -- the forms of two kinds of clauses differ in a name, which `decide` finds
      have hlisted : ∀ l', l.map Term.toValue = l'.map Term.toValue ↔ l = l' :=
        fun _ => (List.map_injective_iff.mpr Term.toValue_injective).eq_iff
      cases d <;> simp +decide [toValue, termsValue, hlisted] at h
      rw [h.1, h.2]
  | .notAfterNow f, d, h => by
      cases d <;> simp +decide [toValue, termsValue] at h
      rw [h]
  | .notBeforeNow f, d, h => by
      cases d <;> simp +decide [toValue, termsValue] at h
      rw [h]
  | .present f, d, h => by
      cases d <;> simp +decide [toValue, termsValue] at h
      rw [h]
  | .all cs, d, h => by
      cases d <;> simp +decide [toValue, termsValue] at h
      rw [toValues_inj h]
  | .any cs, d, h => by
      cases d <;> simp +decide [toValue, termsValue] at h
      rw [toValues_inj h]
  | .not c, d, h => by
      cases d <;> simp +decide [toValue, termsValue] at h
      rw [toValue_inj h]

theorem toValues_inj : ∀ {cs ds : List Clause}, toValues cs = toValues ds → cs = ds
  | [], [], _ => rfl
  | [], _ :: _, h => by simp [toValues] at h
  | _ :: _, [], h => by simp [toValues] at h
  | c :: cs, d :: ds, h => by
      simp only [toValues, List.cons.injEq] at h
      rw [toValue_inj h.1, toValues_inj h.2]

end

theorem toValue_injective : Function.Injective toValue := fun _ _ => toValue_inj

end Clause

/-! ## Search texts -/

/-- The code point that is escaped. -/
def quoteMark : CodePoint := '"'

theorem escapeQuotes_nil : escapeQuotes [] = [] := rfl

theorem escapeQuotes_quote (t : Text) :
    escapeQuotes (quoteMark :: t) = CodePoint.ofChar '\\' :: quoteMark :: escapeQuotes t := rfl

theorem escapeQuotes_cons {c : CodePoint} (hc : c ≠ quoteMark) (t : Text) :
    escapeQuotes (c :: t) = c :: escapeQuotes t := by
  have hlit : ¬ c = CodePoint.ofChar '"' := hc
  simp only [escapeQuotes, List.flatMap_cons]
  rw [if_neg hlit]
  rfl

/-- An escaped text never begins with a quote. -/
theorem escapeQuotes_ne_quote_cons (t rest : Text) : escapeQuotes t ≠ quoteMark :: rest := by
  cases t with
  | nil =>
      intro h
      exact absurd h (by simp [escapeQuotes_nil])
  | cons c t =>
      by_cases hc : c = quoteMark
      · subst hc
        rw [escapeQuotes_quote]
        intro h
        exact absurd (List.cons.inj h).1 (by decide)
      · rw [escapeQuotes_cons hc]
        intro h
        exact hc (List.cons.inj h).1

/-- The code point that takes the next one literally. -/
def backslash : CodePoint := '\\'

theorem backslash_ne_quoteMark : backslash ≠ quoteMark := by decide

/-- Takes one level of escaping away: a scan from the left turns every pair of a backslash and a
quote into the quote. -/
def unescapeQuotes : Text → Text
  | [] => []
  | [c] => [c]
  | c :: d :: rest =>
    if c = backslash ∧ d = quoteMark then quoteMark :: unescapeQuotes rest
    else c :: unescapeQuotes (d :: rest)

theorem unescapeQuotes_pair (t : Text) :
    unescapeQuotes (backslash :: quoteMark :: t) = quoteMark :: unescapeQuotes t := by
  rw [unescapeQuotes, if_pos ⟨rfl, rfl⟩]

/-- A code point that no quote follows stays as it is, a backslash too. -/
theorem unescapeQuotes_cons (c : CodePoint) {t : Text} (ht : ∀ rest, t ≠ quoteMark :: rest) :
    unescapeQuotes (c :: t) = c :: unescapeQuotes t := by
  cases t with
  | nil => rfl
  | cons d rest =>
      have hd : ¬ (c = backslash ∧ d = quoteMark) := by
        rintro ⟨-, rfl⟩
        exact ht rest rfl
      rw [unescapeQuotes, if_neg hd]

/-- **One scan undoes the escaping**, whatever backslashes and quotes the text holds: what stands
after a code point of the text begins with the backslash that was added, never with a quote. -/
theorem unescapeQuotes_escapeQuotes (t : Text) : unescapeQuotes (escapeQuotes t) = t := by
  induction t with
  | nil => rfl
  | cons c t ih =>
      by_cases hc : c = quoteMark
      · subst hc
        have hquote : escapeQuotes (quoteMark :: t) = backslash :: quoteMark :: escapeQuotes t :=
          escapeQuotes_quote t
        rw [hquote, unescapeQuotes_pair, ih]
      · rw [escapeQuotes_cons hc, unescapeQuotes_cons c (escapeQuotes_ne_quote_cons t), ih]

/-- **Escaping never makes two texts one.** -/
theorem escapeQuotes_injective : Function.Injective escapeQuotes :=
  Function.LeftInverse.injective unescapeQuotes_escapeQuotes

theorem TextClause.ofQuery_text {t : Text} (h : t.isBlank = false) :
    ofQuery (some t) = .queryString (escapeQuotes t) := by
  simp [ofQuery, h]

theorem TextClause.toValue_injective : Function.Injective TextClause.toValue := by
  rintro (_ | s) (_ | t) h
  · rfl
  · exact absurd h (by simp +decide [toValue, Value.record])
  · exact absurd h (by simp +decide [toValue, Value.record])
  · simp only [toValue, Value.record, List.map_cons, Value.dict.injEq, List.cons.injEq,
      Prod.mk.injEq, Value.text.injEq, true_and, and_true] at h
    rw [h]

/-! ## Price ranges and sort keys -/

theorem PriceRange.toValue_injective : Function.Injective PriceRange.toValue := by
  rintro ⟨a, b⟩ ⟨c, d⟩ h
  simpa [toValue, filter, Record.toValue, Value.record] using h

theorem Direction.label_injective : Function.Injective Direction.label := by
  intro a b h
  cases a <;> cases b <;> first | rfl | exact absurd h (by decide)

theorem SortKey.toValue_injective : Function.Injective SortKey.toValue := by
  rintro (_ | ⟨f, d⟩) (_ | ⟨g, e⟩) h
  · rfl
  · exact absurd h (by simp [toValue, toEntry, SortEntry.toValue, Record.toValue])
  · exact absurd h (by simp [toValue, toEntry, SortEntry.toValue, Record.toValue])
  · simp [toValue, toEntry, SortEntry.toValue, Record.toValue, Value.record,
      Direction.label_injective.eq_iff] at h
    rw [h.1, h.2]

end FacetSearch
