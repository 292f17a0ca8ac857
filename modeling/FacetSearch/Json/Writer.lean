/-
# FacetSearch.Json.Writer — values to JSON text.

Two styles are in use.  A log line is spaced, writes infinities and not-a-number as bare words and
any other value by its display text, and has no room for an integer of too many digits.  A response
body is tight and strict: it refuses a number that is not finite and every value that JSON does not
know.
-/
import FacetSearch.Value.Literal

namespace FacetSearch.Json

/-- How values are written. -/
structure Style where
  comma : Text
  colon : Text
  /-- Whether numbers that are not finite may be written, as bare words. -/
  bareWords : Bool
  /-- Whether values that JSON does not know are written by their display text. -/
  fallback : Bool
  /-- Whether an integer may have any number of digits. -/
  anyLength : Bool

/-- The style of a log line. -/
def Style.logLine : Style := ⟨", ", ": ", true, true, false⟩

/-- The style of a response body. -/
def Style.body : Style := ⟨",", ":", false, false, true⟩

/-- Why a value could not be written. -/
inductive WriteFault where
  | notFinite
  | unknownKind (v : Value)
  | badKey (k : Value)
  | tooLong

/-- The bare words of JSON text for numbers that are not finite. -/
def floatLayout : FloatLayout := { FloatLayout.plain with infinity := "Infinity", nan := "NaN" }

/-- One code point of a JSON text: quotes, backslashes and controls are escaped, all else stands
for itself. -/
def escape (c : CodePoint) : Text :=
  if c = ('"' : CodePoint) then "\\\""
  else if c = ('\\' : CodePoint) then "\\\\"
  else if c.val = 0x0A then "\\n"
  else if c.val = 0x0D then "\\r"
  else if c.val = 0x09 then "\\t"
  else if c.val = 0x08 then "\\b"
  else if c.val = 0x0C then "\\f"
  else if c.val < 0x20 then "\\u" ++ Text.ofHex c.val 4
  else [c]

/-- The JSON text of a text. -/
def quote (t : Text) : Text :=
  ('"' : CodePoint) :: t.flatMap escape ++ Text.ofString "\""

/-- The JSON text of a number that may be infinite or not a number. -/
def writeFloat (style : Style) (x : Binary64) : Except WriteFault Text :=
  if x.isFinite || style.bareWords then .ok (x.textIn floatLayout) else .error .notFinite

/-- The JSON text of an integer. -/
def writeInt (style : Style) (n : Int) : Except WriteFault Text :=
  if style.anyLength ∨ ShortInteger n then .ok (Text.ofInt n) else .error .tooLong

/-- The name that a key gives its member. -/
def writeKey (style : Style) : Value → Except WriteFault Text
  | .text t => .ok (quote t)
  | .sorting mode => .ok (quote mode.label)
  | .null => .ok (quote "null")
  | .bool b => .ok (quote (if b then "true" else "false"))
  | .int n => (writeInt style n).map quote
  | .float x => (writeFloat style x).map quote
  | k => .error (.badKey k)

/-- A value that JSON does not know. -/
def writeOther (style : Style) (v : Value) : Except WriteFault Text :=
  if !style.fallback then .error (.unknownKind v)
  else if v.hasText then .ok (quote v.display)
  else .error .tooLong

mutual

/-- The JSON text of a value. -/
def write (style : Style) : Value → Except WriteFault Text
  | .null => .ok "null"
  | .bool b => .ok (if b then "true" else "false")
  | .int n => writeInt style n
  | .float x => writeFloat style x
  | .text t => .ok (quote t)
  | .sorting mode => .ok (quote mode.label)
  | .list xs => writeArray style xs
  | .tuple xs => writeArray style xs
  | .dict entries =>
    (writeMembers style entries).map fun ts => "\x7b" ++ Text.join style.comma ts ++ "\x7d"
  | .decimal d => writeOther style (.decimal d)
  | .bytes bs => writeOther style (.bytes bs)
  | .set xs => writeOther style (.set xs)

/-- The JSON text of an array. -/
def writeArray (style : Style) (xs : List Value) : Except WriteFault Text :=
  (writeElements style xs).map fun ts => "[" ++ Text.join style.comma ts ++ "]"

/-- The JSON texts of the elements of an array. -/
def writeElements (style : Style) : List Value → Except WriteFault (List Text)
  | [] => .ok []
  | x :: xs =>
    match write style x with
    | .error e => .error e
    | .ok t => (writeElements style xs).map (t :: ·)

/-- The JSON texts of the members of an object. -/
def writeMembers (style : Style) : List (Value × Value) → Except WriteFault (List Text)
  | [] => .ok []
  | (k, v) :: rest =>
    match writeKey style k with
    | .error e => .error e
    | .ok name =>
      match write style v with
      | .error e => .error e
      | .ok t => (writeMembers style rest).map ((name ++ style.colon ++ t) :: ·)

end

end FacetSearch.Json
