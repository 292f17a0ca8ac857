/-
# FacetSearch.Validation.Scalar — reading single values leniently.

Each reader takes every value that plainly says what is wanted: a number for an integer if nothing
stands after its point, a text of digits, one of a dozen words for a truth value, bytes for the
text they encode.  What it refuses, it refuses with one problem, so that the caller learns whether
the kind or the content was wrong.
-/
import FacetSearch.Numeric.Integer
import FacetSearch.Validation.Issue

namespace FacetSearch.Validation

/-- What a value offers as text: texts, words of sorting modes, and bytes.  Bytes may fail to be
UTF-8, and a text that holds a surrogate has no UTF-8 form. -/
inductive Wording where
  | text (t : Text)
  | illFormed
  | withSurrogates (t : Text)
  | none

/-- The wording of a value. -/
def wording : Value → Wording
  | .bytes bs => match Utf8.decode? bs with
    | some t => .text t
    | none => .illFormed
  | v => match v.text? with
    | some t => if t.isScalar then .text t else .withSurrogates t
    | none => .none

/-- The integer that a double is; only integers strictly inside the 64-bit signed range count. -/
def intOfFloat (x : Binary64) : Except Problem Int :=
  if !x.isFinite then .error .notFinite
  else
    match x.toInt? with
    | none => .error .intFractional
    | some n => if -wordLimit < n ∧ n < wordLimit then .ok n else .error .intTooLong

/-- The integer that a decimal is. -/
def intOfDecimal (d : DecimalDatum) : Except Problem Int :=
  match d.finite? with
  | none => .error .notFinite
  | some d => match d.toInt? with
    | none => .error .intFractional
    | some n => .ok n

/-- The integer that a text is. -/
def intOfText (t : Text) : Except Problem Int :=
  match IntegerReading.ofText t with
  | .value n => .ok n
  | .tooLong => .error .intTooLong
  | .malformed => .error .intUnreadable

/-- The integer that a value is, or its one problem. -/
def int? (v : Value) : Except Problem Int :=
  match v with
  | .int n => .ok n
  | .bool b => .ok (if b then 1 else 0)
  | .float x => intOfFloat x
  | .decimal d => intOfDecimal d
  | _ => match wording v with
    | .text t => intOfText t
    | .illFormed => .error .intUnreadable
    | .withSurrogates _ => .error .textNotUnicode
    | .none => .error .notInt

/-- The decimal that a value is, or its one problem.  A double counts as the decimal it is written
as, so `0.1` is one tenth. -/
def decimal? (v : Value) : Except Problem Decimal :=
  let finite (d : Option DecimalDatum) : Except Problem Decimal :=
    match d with
    | none => .error .decimalUnreadable
    | some d => match d.finite? with
      | some d => .ok d
      | none => .error .notFinite
  match v with
  | .int n => .ok (Decimal.ofInt n)
  | .float x => finite (DecimalDatum.ofText? x.toText)
  | .decimal d => finite (some d)
  | _ => match v.text? with
    | some t => finite (DecimalDatum.ofText? t)
    | none => .error .notDecimal

/-- The words for true. -/
def trueWords : List Text := ["1", "true", "t", "yes", "y", "on"]

/-- The words for false. -/
def falseWords : List Text := ["0", "false", "f", "no", "n", "off"]

/-- The truth value that a text is; capitals count as small letters, blanks count as themselves. -/
def boolOfText (t : Text) : Except Problem Bool :=
  if trueWords.contains t.lower then .ok true
  else if falseWords.contains t.lower then .ok false
  else .error .boolUnreadable

/-- The truth value that an integer is. -/
def boolOfInt (n : Int) : Except Problem Bool :=
  if n = 0 then .ok false else if n = 1 then .ok true else .error .boolUnreadable

/-- The truth value that a double is: no truth value at all unless it is an integer. -/
def boolOfFloat (x : Binary64) : Except Problem Bool :=
  match intOfFloat x with
  | .ok n => boolOfInt n
  | .error _ => .error .notBool

/-- The double that a decimal is; a signalling not-a-number is none. -/
def floatOfDecimal? : DecimalDatum → Option Binary64
  | .finite d => some d.toBinary64
  | .infinity negative => some (.infinity negative)
  | .nan _ signalling _ => if signalling then none else some .nan

/-- The truth value that a value is, or its one problem. -/
def bool? (v : Value) : Except Problem Bool :=
  match v with
  | .bool b => .ok b
  | .int n =>
    if -wordLimit ≤ n ∧ n < wordLimit then boolOfInt n else .error .notBool
  | .float x => boolOfFloat x
  | .decimal d => match floatOfDecimal? d with
    | some x => boolOfFloat x
    | none => .error .notBool
  | _ => match wording v with
    | .text t => boolOfText t
    | .illFormed => .error .boolUnreadable
    | .withSurrogates _ => .error .textNotUnicode
    | .none => .error .notBool

/-- The double nearest to an integer, unless the integer is beyond every double. -/
def floatOfInt? (n : Int) : Option Binary64 :=
  let x := Binary64.ofInt n
  if x.isFinite then some x else none

/-- The double that a value is, or its one problem. -/
def float? (v : Value) : Except Problem Binary64 :=
  let orNotFloat (x : Option Binary64) : Except Problem Binary64 :=
    match x with
    | some x => .ok x
    | none => .error .notFloat
  match v with
  | .float x => .ok x
  | .bool b => .ok (Binary64.ofInt (if b then 1 else 0))
  | .int n => orNotFloat (floatOfInt? n)
  | .decimal d => orNotFloat (floatOfDecimal? d)
  | _ => match wording v with
    | .text t => match Binary64.ofLenientText? t with
      | some x => .ok x
      | none => .error .floatUnreadable
    | .illFormed => .error .floatUnreadable
    | .withSurrogates _ => .error .textNotUnicode
    | .none => .error .notFloat

/-- The text that a value is, or its one problem. -/
def text? (v : Value) : Except Problem Text :=
  match wording v with
  | .text t => .ok t
  | .withSurrogates t => .ok t
  | .illFormed => .error .textNotUnicode
  | .none => .error .notText

/-- A reading with at most one problem, at the place of the value itself. -/
def scalar {α : Type} (read : Value → Except Problem α) (v : Value) : Checked α :=
  match read v with
  | .ok a => .ok a
  | .error p => Checked.fail p v

/-- Null stands for nothing, any other value is read. -/
def nullable {α : Type} (read : Value → Checked α) : Value → Checked (Option α)
  | .null => .ok none
  | v => (read v).map some

end FacetSearch.Validation
