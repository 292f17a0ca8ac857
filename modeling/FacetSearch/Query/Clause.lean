/-
# FacetSearch.Query.Clause — the clauses of a query document.

A clause selects products.  The ones in use are few: a field holds one of several terms, a date is
not after or not before the present hour, a field is there, and their combinations.  `toValue` is
the form in which the engine takes a clause.
-/
import FacetSearch.Query.Field
import FacetSearch.Query.Params

namespace FacetSearch

/-- A term that a field may hold. -/
inductive Term where
  | text (t : Text)
  | number (n : Int)
  deriving DecidableEq, Repr

namespace Term

def toValue : Term → Value
  | .text t => .text t
  | .number n => .int n

/-- The term that a taxon id is indexed as. -/
def ofTaxonId : TaxonId → Term
  | .number n => .number n
  | .word t => .text t

end Term

/-- A clause of a query document. -/
inductive Clause where
  /-- The field holds at least one of the listed terms. -/
  | terms (field : Field) (listed : List Term)
  /-- The date is there and not after the present hour. -/
  | notAfterNow (field : Field)
  /-- The date is there and not before the present hour. -/
  | notBeforeNow (field : Field)
  /-- The field is there. -/
  | present (field : Field)
  /-- All of the clauses hold. -/
  | all (clauses : List Clause)
  /-- At least one of the clauses holds. -/
  | any (clauses : List Clause)
  /-- The clause does not hold. -/
  | not (clause : Clause)
  deriving Repr

namespace Clause

/-- A dictionary with one entry. -/
def single (name : Text) (v : Value) : Value := .dict [(.text name, v)]

/-- The terms clause for any listed values. -/
def termsValue (field : Field) (listed : List Value) : Value :=
  single "terms" (single field.label (.list listed))

mutual

/-- The form in which the engine takes a clause. -/
def toValue : Clause → Value
  | .terms field listed => termsValue field (listed.map Term.toValue)
  | .notAfterNow field => single "range" (single field.label (single "lte" (.text thisHour)))
  | .notBeforeNow field => single "range" (single field.label (single "gte" (.text thisHour)))
  | .present field => single "exists" (single "field" (.text field.label))
  | .all clauses => single "bool" (single "must" (.list (toValues clauses)))
  | .any clauses => single "bool" (single "should" (.list (toValues clauses)))
  | .not clause => single "bool" (single "must_not" (toValue clause))

/-- The forms of several clauses. -/
def toValues : List Clause → List Value
  | [] => []
  | c :: cs => toValue c :: toValues cs

end

end Clause

end FacetSearch
