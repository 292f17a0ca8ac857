/-
# FacetSearch.Proofs.Matching — which documents a filter selects.

The engine holds a document as terms and dates under field names.  `accepts?` is its reading of a
filter in the form in which filters are sent: `terms` asks for one listed term in the field, `range`
for a date on the right side of the present hour, `exists` for anything in the field, and `bool` for
all (`must`), for at least one (`should`) or for the failure (`must_not`) of the filters in it.  It
gives no answer to a form outside of this fragment.

`Clause.selects` says the same of a clause before it is written out, and `accepts?_toValue` is the
agreement of the two: every clause is written in the fragment and keeps its meaning.
-/
import FacetSearch.Query.Clause
import Mathlib.Data.Finset.Image

namespace FacetSearch

/-- What the engine holds of a document, by the names of the fields: terms, and dates on a scale of
instants. -/
structure Indexed (τ : Type) where
  terms : Text → Finset Term
  date : Text → Option τ

/-- The present hour as the bound of a range: the last instant that is not after it, and the first
that is not before it. -/
structure PresentHour (τ : Type) where
  latest : τ
  earliest : τ

variable {τ : Type}

namespace Indexed

/-- The field holds one of the terms. -/
def holdsAny (doc : Indexed τ) (field : Text) (listed : List Term) : Bool :=
  listed.any (· ∈ doc.terms field)

/-- The field holds anything at all. -/
def present (doc : Indexed τ) (field : Text) : Bool :=
  (doc.date field).isSome || decide (doc.terms field ≠ ∅)

variable [LE τ] [DecidableLE τ]

/-- The field holds a date that is not after the present hour. -/
def notAfter (doc : Indexed τ) (now : PresentHour τ) (field : Text) : Bool :=
  (doc.date field).any (· ≤ now.latest)

/-- The field holds a date that is not before the present hour. -/
def notBefore (doc : Indexed τ) (now : PresentHour τ) (field : Text) : Bool :=
  (doc.date field).any (now.earliest ≤ ·)

end Indexed

/-! ## The engine's reading of a filter -/

namespace Engine

/-- The term that a listed value is. -/
def term? : Value → Option Term
  | .text t => some (.text t)
  | .int n => some (.number n)
  | _ => none

/-- `terms`: the field holds at least one of the listed values. -/
def acceptsTerms? (doc : Indexed τ) (field : Text) : Value → Option Bool
  | .list listed => (listed.mapM term?).map (doc.holdsAny field)
  | _ => none

/-- `exists`: the field holds anything. -/
def acceptsExists? (doc : Indexed τ) (key : Text) : Value → Option Bool
  | .text field => if key = Text.ofString "field" then some (doc.present field) else none
  | _ => none

@[simp] theorem term?_toValue (t : Term) : term? t.toValue = some t := by
  cases t <;> rfl

theorem acceptsTerms?_toValue (doc : Indexed τ) (field : Text) (listed : List Term) :
    acceptsTerms? doc field (.list (listed.map Term.toValue)) =
      some (doc.holdsAny field listed) := by
  have hread : (listed.map Term.toValue).mapM term? = some listed := by
    induction listed with
    | nil => rfl
    | cons t ts ih => simp [List.mapM_cons, ih]
  simp [acceptsTerms?, hread]

variable [LE τ] [DecidableLE τ]

/-- `range`: a bound of the date in the field; a field without a date is in no range. -/
def acceptsRange? (now : PresentHour τ) (doc : Indexed τ) (field : Text) : Value → Option Bool
  | .dict [(.text side, .text moment)] =>
    if moment ≠ thisHour then none
    else if side = Text.ofString "lte" then some (doc.notAfter now field)
    else if side = Text.ofString "gte" then some (doc.notBefore now field)
    else none
  | _ => none

mutual

/-- Whether a document is selected by a filter; nothing for a form that is not described here. -/
def accepts? (now : PresentHour τ) (doc : Indexed τ) : Value → Option Bool
  | .dict [(.text kind, .dict [(.text key, v)])] =>
    if kind = Text.ofString "terms" then acceptsTerms? doc key v
    else if kind = Text.ofString "range" then acceptsRange? now doc key v
    else if kind = Text.ofString "exists" then acceptsExists? doc key v
    else if kind = Text.ofString "bool" then
      if key = Text.ofString "must" then acceptsMust? now doc v
      else if key = Text.ofString "should" then acceptsShould? now doc v
      else if key = Text.ofString "must_not" then (accepts? now doc v).map not
      else none
    else none
  | _ => none

/-- `must`: all filters of the list select the document. -/
def acceptsMust? (now : PresentHour τ) (doc : Indexed τ) : Value → Option Bool
  | .list filters => acceptsAll? now doc filters
  | _ => none

/-- `should`: some filter of the list selects the document. -/
def acceptsShould? (now : PresentHour τ) (doc : Indexed τ) : Value → Option Bool
  | .list filters => acceptsAny? now doc filters
  | _ => none

/-- Whether all filters select a document. -/
def acceptsAll? (now : PresentHour τ) (doc : Indexed τ) : List Value → Option Bool
  | [] => some true
  | f :: fs =>
    match accepts? now doc f, acceptsAll? now doc fs with
    | some a, some b => some (a && b)
    | _, _ => none

/-- Whether one of the filters selects a document. -/
def acceptsAny? (now : PresentHour τ) (doc : Indexed τ) : List Value → Option Bool
  | [] => some false
  | f :: fs =>
    match accepts? now doc f, acceptsAny? now doc fs with
    | some a, some b => some (a || b)
    | _, _ => none

end

open Clause (single)

variable (now : PresentHour τ) (doc : Indexed τ)

/-! ### One equation for each form -/

theorem accepts?_terms (field : Text) (v : Value) :
    accepts? now doc (single "terms" (single field v)) = acceptsTerms? doc field v := rfl

theorem accepts?_range (field : Text) (v : Value) :
    accepts? now doc (single "range" (single field v)) = acceptsRange? now doc field v := rfl

theorem accepts?_exists (field : Text) :
    accepts? now doc (single "exists" (single "field" (.text field))) = some (doc.present field) :=
  rfl

theorem accepts?_must (filters : List Value) :
    accepts? now doc (single "bool" (single "must" (.list filters))) =
      acceptsAll? now doc filters := by
  rw [single, single, accepts?]
  rfl

theorem accepts?_should (filters : List Value) :
    accepts? now doc (single "bool" (single "should" (.list filters))) =
      acceptsAny? now doc filters := by
  rw [single, single, accepts?]
  rfl

theorem accepts?_mustNot (v : Value) :
    accepts? now doc (single "bool" (single "must_not" v)) = (accepts? now doc v).map not := by
  rw [single, single, accepts?]
  rfl

end Engine

/-! ## The meaning of a clause -/

namespace Clause

variable [LE τ] [DecidableLE τ]

mutual

/-- Whether a clause selects a document. -/
def selects (now : PresentHour τ) (doc : Indexed τ) : Clause → Bool
  | .terms field listed => doc.holdsAny field.label listed
  | .notAfterNow field => doc.notAfter now field.label
  | .notBeforeNow field => doc.notBefore now field.label
  | .present field => doc.present field.label
  | .all clauses => selectsAll now doc clauses
  | .any clauses => selectsAny now doc clauses
  | .not clause => !selects now doc clause

/-- Whether all clauses select a document. -/
def selectsAll (now : PresentHour τ) (doc : Indexed τ) : List Clause → Bool
  | [] => true
  | c :: cs => selects now doc c && selectsAll now doc cs

/-- Whether one of the clauses selects a document. -/
def selectsAny (now : PresentHour τ) (doc : Indexed τ) : List Clause → Bool
  | [] => false
  | c :: cs => selects now doc c || selectsAny now doc cs

end

variable (now : PresentHour τ) (doc : Indexed τ)

theorem selectsAll_iff {clauses : List Clause} :
    selectsAll now doc clauses = true ↔ ∀ c ∈ clauses, selects now doc c = true := by
  induction clauses with
  | nil => simp [selectsAll]
  | cons c cs ih => simp [selectsAll, ih]

end Clause

namespace Engine

open Clause (selects selectsAll selectsAny)

variable [LE τ] [DecidableLE τ]
variable (now : PresentHour τ) (doc : Indexed τ)

mutual

/-- **Writing a clause out keeps its meaning**: the engine reads what is sent, and selects what the
clause selects. -/
theorem accepts?_toValue : ∀ c : Clause,
    accepts? now doc c.toValue = some (selects now doc c)
  -- by recursion on the clause: what is not made of clauses is written in one way only
  | .terms field listed => by
      rw [Clause.toValue, Clause.termsValue, accepts?_terms, acceptsTerms?_toValue, selects]
  | .notAfterNow field => by
      rw [Clause.toValue, accepts?_range, selects]
      rfl
  | .notBeforeNow field => by
      rw [Clause.toValue, accepts?_range, selects]
      rfl
  | .present field => by
      rw [Clause.toValue, accepts?_exists, selects]
  | .all clauses => by
      rw [Clause.toValue, accepts?_must, acceptsAll?_toValues clauses, selects]
  | .any clauses => by
      rw [Clause.toValue, accepts?_should, acceptsAny?_toValues clauses, selects]
  | .not clause => by
      rw [Clause.toValue, accepts?_mustNot, accepts?_toValue clause, selects]
      rfl

theorem acceptsAll?_toValues : ∀ cs : List Clause,
    acceptsAll? now doc (Clause.toValues cs) = some (selectsAll now doc cs)
  | [] => rfl
  | c :: cs => by
      rw [Clause.toValues, acceptsAll?, accepts?_toValue c, acceptsAll?_toValues cs, selectsAll]

theorem acceptsAny?_toValues : ∀ cs : List Clause,
    acceptsAny? now doc (Clause.toValues cs) = some (selectsAny now doc cs)
  | [] => rfl
  | c :: cs => by
      rw [Clause.toValues, acceptsAny?, accepts?_toValue c, acceptsAny?_toValues cs, selectsAny]

end

end Engine

end FacetSearch
