/-
# FacetSearch.Validation.Issue — what is wrong with an input, and where.

Reading an input into a typed form collects every issue instead of stopping at the first.  An
issue says what the problem is, on which path from the top of the input it lies, and which value
was offered there.  `Checked` is the result of such a reading; `Checked.ap` joins two readings and
keeps the issues of both, in order.
-/
import FacetSearch.Text.Utf8
import FacetSearch.Value.Literal

namespace FacetSearch

/-- What can be wrong with a value. -/
inductive Problem where
  | missing
  | notModel (model : Text)
  | notObject
  | notInt
  | intUnreadable
  | intTooLong
  | intFractional
  | notFinite
  | notDecimal
  | decimalUnreadable
  | notBool
  | boolUnreadable
  | notFloat
  | floatUnreadable
  | notText
  | textNotUnicode
  | notList
  | notDict
  | below (bound : Int)
  | frozen
  | badJson (reason : Text)
  | raised (reason : Text)

namespace Problem

/-- The short code of a problem. -/
def code : Problem → Text
  | .missing => "missing"
  | .notModel _ => "model_type"
  | .notObject => "model_attributes_type"
  | .notInt => "int_type"
  | .intUnreadable => "int_parsing"
  | .intTooLong => "int_parsing_size"
  | .intFractional => "int_from_float"
  | .notFinite => "finite_number"
  | .notDecimal => "decimal_type"
  | .decimalUnreadable => "decimal_parsing"
  | .notBool => "bool_type"
  | .boolUnreadable => "bool_parsing"
  | .notFloat => "float_type"
  | .floatUnreadable => "float_parsing"
  | .notText => "string_type"
  | .textNotUnicode => "string_unicode"
  | .notList => "list_type"
  | .notDict => "dict_type"
  | .below _ => "greater_than_equal"
  | .frozen => "frozen_instance"
  | .badJson _ => "json_invalid"
  | .raised _ => "value_error"

/-- The wording of a problem. -/
def message : Problem → Text
  | .missing => "Field required"
  | .notModel model => "Input should be a valid dictionary or instance of " ++ model
  | .notObject => "Input should be a valid dictionary or object to extract fields from"
  | .notInt => "Input should be a valid integer"
  | .intUnreadable => "Input should be a valid integer, unable to parse string as an integer"
  | .intTooLong => "Unable to parse input string as an integer, exceeded maximum size"
  | .intFractional => "Input should be a valid integer, got a number with a fractional part"
  | .notFinite => "Input should be a finite number"
  | .notDecimal => "Decimal input should be an integer, float, string or Decimal object"
  | .decimalUnreadable => "Input should be a valid decimal"
  | .notBool => "Input should be a valid boolean"
  | .boolUnreadable => "Input should be a valid boolean, unable to interpret input"
  | .notFloat => "Input should be a valid number"
  | .floatUnreadable => "Input should be a valid number, unable to parse string as a number"
  | .notText => "Input should be a valid string"
  | .textNotUnicode =>
    "Input should be a valid string, unable to parse raw data as a unicode string"
  | .notList => "Input should be a valid list"
  | .notDict => "Input should be a valid dictionary"
  | .below bound => "Input should be greater than or equal to " ++ Text.ofInt bound
  | .frozen => "Instance is frozen"
  | .badJson _ => "JSON decode error"
  | .raised reason => "Value error, " ++ reason

/-- The particulars of a problem, for those that have any. -/
def context? : Problem → Option (List (Text × Value))
  | .below bound => some [("ge", .int bound)]
  | .badJson reason => some [("error", .text reason)]
  | .raised reason => some [("error", .text reason)]
  | _ => none

end Problem

/-- A step from a value into one of its parts. -/
inductive Step where
  | name (t : Text)
  | index (i : Int)
  deriving DecidableEq, Repr

/-- The step as a value. -/
def Step.toValue : Step → Value
  | .name t => .text t
  | .index i => .int i

/-- The least integer above all those that fit 64 bits, two to the power of 63. -/
def wordLimit : Int := 0x8000000000000000

/-- The step that a dictionary key makes: numbers that fit 64 bits are indices, texts are names
with surrogates replaced, and every other key is named by its literal. -/
def Step.ofKey (k : Value) : Step :=
  match k with
  | .bool b => .index (if b then 1 else 0)
  | .int n => if -wordLimit ≤ n ∧ n < wordLimit then .index n else .name k.literal
  | _ =>
    match k.text? with
    | some t => .name (Utf8.replaceSurrogates t)
    | none => .name k.literal

/-- One thing wrong with an input. -/
structure Issue where
  problem : Problem
  path : List Step
  input : Value

/-- The result of reading an input: the typed form, or everything that is wrong. -/
abbrev Checked (α : Type) := Except (List Issue) α

namespace Checked

variable {α β : Type}

/-- A single problem with a value, at the place of the reading itself. -/
def fail (problem : Problem) (input : Value) : Checked α := .error [⟨problem, [], input⟩]

/-- Places the issues of a reading one step further down. -/
def under (step : Step) : Checked α → Checked α
  | .ok a => .ok a
  | .error issues => .error (issues.map fun i => { i with path := step :: i.path })

/-- Applies a read function to a read argument and keeps the issues of both. -/
def ap : Checked (α → β) → Checked α → Checked β
  | .ok f, .ok a => .ok (f a)
  | .ok _, .error issues => .error issues
  | .error issues, .ok _ => .error issues
  | .error issues, .error issues' => .error (issues ++ issues')

/-- Joins two readings. -/
def both (a : Checked α) (b : Checked β) : Checked (α × β) := Checked.ap (a.map Prod.mk) b

/-- Reads the members of a list, each under its index. -/
def each (read : Value → Checked α) : (start : Nat) → List Value → Checked (List α)
  | _, [] => .ok []
  | start, x :: xs =>
    Checked.ap ((Checked.under (.index start) (read x)).map List.cons) (each read (start + 1) xs)

end Checked

end FacetSearch
