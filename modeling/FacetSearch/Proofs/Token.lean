/-
# FacetSearch.Proofs.Token — what a property token tells of its property.

A token is a name, two bars and a value, and nothing in it is escaped.  It still tells name and
value apart as long as the name is *safe*: no two bars stand next to one another in it, and it does
not end in one, so the first two neighbouring bars of the token are the separator.  The value may
hold any bars.
-/
import FacetSearch.Query.Clause
import Mathlib.Data.List.Infix

namespace FacetSearch

/-- The code point of which the separator has two. -/
def bar : CodePoint := '|'

/-- A name is safe when the separator does not stand in it and it does not end in a bar. -/
def SafeName (name : Text) : Prop := ¬ tokenSeparator <:+: name ∧ ¬ [bar] <:+ name

instance (name : Text) : Decidable (SafeName name) := inferInstanceAs (Decidable (_ ∧ _))

theorem tokenSeparator_eq : tokenSeparator = [bar, bar] := rfl

theorem propertyToken_eq (name value : Text) :
    propertyToken name value = name ++ bar :: bar :: value := by
  simp [propertyToken, tokenSeparator_eq]

namespace SafeName

/-- What is left of a safe name without its first code point is safe. -/
theorem tail {c : CodePoint} {name : Text} (h : SafeName (c :: name)) : SafeName name := by
  refine ⟨fun hin => h.1 ?_, fun hend => h.2 ?_⟩
  · exact hin.trans (List.suffix_cons c name).isInfix
  · exact hend.trans (List.suffix_cons c name)

/-- A safe name is nowhere the beginning of a separator that stands after it: after a bar it goes
on, and not with a second bar. -/
theorem not_bar_cons {name value rest : Text} (h : SafeName (bar :: name)) :
    bar :: value ≠ name ++ bar :: bar :: rest := by
  intro heq
  cases name with
  | nil => exact h.2 (List.suffix_refl _)
  | cons d name =>
      obtain ⟨rfl, -⟩ := List.cons.inj heq
      exact h.1 ⟨[], name, by simp [tokenSeparator_eq]⟩

end SafeName

/-- **Tokens of safe names are unambiguous**, whatever bars the values hold. -/
theorem propertyToken_inj {name name' value value' : Text} (h : SafeName name)
    (h' : SafeName name') :
    propertyToken name value = propertyToken name' value' ↔ name = name' ∧ value = value' := by
  refine ⟨?_, by rintro ⟨rfl, rfl⟩; rfl⟩
  intro heq
  rw [propertyToken_eq, propertyToken_eq] at heq
  -- both names are read at once: the first place where they differ would put a bar into one of them
  induction name generalizing name' with
  | nil =>
      cases name' with
      | nil => simpa using heq
      | cons c name' =>
          obtain ⟨rfl, hrest⟩ := List.cons.inj heq
          exact absurd hrest h'.not_bar_cons
  | cons c name ih =>
      cases name' with
      | nil =>
          obtain ⟨rfl, hrest⟩ := List.cons.inj heq
          exact absurd hrest.symm h.not_bar_cons
      | cons c' name' =>
          obtain ⟨rfl, hrest⟩ := List.cons.inj heq
          obtain ⟨rfl, rfl⟩ := ih h.tail h'.tail hrest
          exact ⟨rfl, rfl⟩

/-- The tokens of one safe name tell its values apart. -/
theorem map_propertyToken_inj {name name' : Text} (h : SafeName name) (h' : SafeName name')
    {values values' : List Text} (hne : values ≠ []) :
    values.map (propertyToken name) = values'.map (propertyToken name') ↔
      name = name' ∧ values = values' := by
  refine ⟨?_, by rintro ⟨rfl, rfl⟩; rfl⟩
  intro heq
  induction values generalizing values' with
  | nil => exact absurd rfl hne
  | cons v vs ih =>
      cases values' with
      | nil => exact absurd heq (by simp)
      | cons v' vs' =>
          obtain ⟨hv, hvs⟩ := List.cons.inj heq
          obtain ⟨rfl, rfl⟩ := (propertyToken_inj h h').mp hv
          refine ⟨rfl, ?_⟩
          by_cases hnil : vs = []
          · subst hnil
            rw [List.map_nil, eq_comm, List.map_eq_nil_iff] at hvs
            rw [hvs]
          · rw [(ih hnil hvs).2]

end FacetSearch
