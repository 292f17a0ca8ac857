/-
# FacetSearch.Value.Literal — values as text.

`display` is the text a value has on its own, in a token or a log message; `literal` is the text
it has inside another value, where texts are quoted and decimals and modes say what they are.
The two differ for texts, decimals and sorting modes only.  An integer of too many digits is not
written at all, and neither is a value that it stands in: `shown` is the text of a value, or what is
said of one that has none.
-/
import FacetSearch.Numeric.Shortest
import FacetSearch.Text.Quoted
import FacetSearch.Value.Basic

namespace FacetSearch.Value

mutual

/-- The text of a value inside another value. -/
def literal : Value → Text
  | .null => "None"
  | .bool b => if b then "True" else "False"
  | .int n => Text.ofInt n
  | .float x => x.toText
  | .decimal d => "Decimal('" ++ d.toText ++ "')"
  | .text t => Quoted.ofText t
  | .bytes bs => Quoted.ofBytes bs
  | .sorting mode => "<Sorting." ++ mode.label ++ ": '" ++ mode.label ++ "'>"
  | .list xs => "[" ++ Text.join ", " (literals xs) ++ "]"
  | .tuple xs =>
    match literals xs with
    | [x] => "(" ++ x ++ ",)"
    | ts => "(" ++ Text.join ", " ts ++ ")"
  | .set xs =>
    match literals xs with
    | [] => "set()"
    | ts => "\x7b" ++ Text.join ", " ts ++ "\x7d"
  | .dict entries => "\x7b" ++ Text.join ", " (entryLiterals entries) ++ "\x7d"

/-- The texts of the members of a list. -/
def literals : List Value → List Text
  | [] => []
  | x :: xs => literal x :: literals xs

/-- The texts of the entries of a dictionary: key, colon, value. -/
def entryLiterals : List (Value × Value) → List Text
  | [] => []
  | (k, v) :: rest => (literal k ++ ": " ++ literal v) :: entryLiterals rest

end

/-- The text of a value on its own. -/
def display : Value → Text
  | .text t => t
  | .decimal d => d.toText
  | .sorting mode => "Sorting." ++ mode.label
  | v => v.literal

mutual

/-- Whether a value has a text: no integer in it is too long. -/
def hasText : Value → Bool
  | .int n => decide (ShortInteger n)
  | .list xs => haveTexts xs
  | .tuple xs => haveTexts xs
  | .set xs => haveTexts xs
  | .dict entries => entriesHaveTexts entries
  | _ => true

/-- Whether all members of a list have a text. -/
def haveTexts : List Value → Bool
  | [] => true
  | x :: xs => hasText x && haveTexts xs

/-- Whether all keys and values of a dictionary have a text. -/
def entriesHaveTexts : List (Value × Value) → Bool
  | [] => true
  | (k, v) :: rest => hasText k && hasText v && entriesHaveTexts rest

end

/-- What is said of an integer that is too long to be written. -/
def tooLong : Text :=
  "Exceeds the limit (4300 digits) for integer string conversion; " ++
    "use sys.set_int_max_str_digits() to increase the limit"

/-- The text of a value on its own, unless an integer in it is too long. -/
def shown (v : Value) : Except Text Text := if v.hasText then .ok v.display else .error tooLong

end FacetSearch.Value
