/-
# FacetSearch.Json.Reader — JSON text to values.

The reader takes standard JSON and, beyond it, the words `NaN`, `Infinity` and `-Infinity`.  Of
members with the same name the first keeps the place and the last gives the value.  A text that is
not JSON is refused with what was expected and the position, in code points, at which it was
expected; nesting deeper than the reader was allowed and integers of more than 4300 digits are
refused without a position.
-/
import FacetSearch.Numeric.Integer
import FacetSearch.Value.Basic

namespace FacetSearch.Json

/-- What can be wrong with a JSON text at a position. -/
inductive Fault where
  | valueExpected
  | nameExpected
  | colonExpected
  | commaExpected
  | extraData
  | unterminatedText
  | controlCharacter
  | badEscape
  | badUnicodeEscape
  deriving DecidableEq, Repr

/-- The wording of a fault. -/
def Fault.message : Fault → Text
  | .valueExpected => "Expecting value"
  | .nameExpected => "Expecting property name enclosed in double quotes"
  | .colonExpected => "Expecting ':' delimiter"
  | .commaExpected => "Expecting ',' delimiter"
  | .extraData => "Extra data"
  | .unterminatedText => "Unterminated string starting at"
  | .controlCharacter => "Invalid control character at"
  | .badEscape => "Invalid \\escape"
  | .badUnicodeEscape => "Invalid \\uXXXX escape"

/-- Why a text could not be read. -/
inductive ReadError where
  | malformed (fault : Fault) (position : Nat)
  | tooDeep
  | integerTooLong
  deriving DecidableEq, Repr

/-- What is left to read, and where in the text it begins. -/
structure Cursor where
  rest : Text
  position : Nat
  deriving DecidableEq, Repr

namespace Cursor

/-- Moves on by a number of code points. -/
def advance (cur : Cursor) (n : Nat) : Cursor := ⟨cur.rest.drop n, cur.position + n⟩

/-- The blanks that may stand between the tokens of a JSON text. -/
def isSpace (c : CodePoint) : Bool := c.val = 0x20 || c.val = 0x09 || c.val = 0x0A || c.val = 0x0D

/-- Moves on past blanks. -/
def skipSpace (cur : Cursor) : Cursor :=
  cur.advance (cur.rest.takeWhile isSpace).length

/-- A fault at the cursor. -/
def fault {α : Type} (cur : Cursor) (f : Fault) : Except ReadError α :=
  .error (.malformed f cur.position)

/-- Whether a given code point stands at the cursor. -/
def sees (cur : Cursor) (c : CodePoint) : Bool := cur.rest.head? == some c

end Cursor

/-! ## Texts -/

/-- The number that four hexadecimal digits write. -/
def hexQuad? (t : Text) : Option Nat :=
  if t.length = 4 then
    (t.mapM CodePoint.hexValue?).map fun ds => ds.foldl (fun n d => 16 * n + d) 0
  else none

/-- What an escape of one letter stands for. -/
def simpleEscape? (c : CodePoint) : Option CodePoint :=
  if c = ('"' : CodePoint) ∨ c = ('\\' : CodePoint) ∨ c = ('/' : CodePoint) then some c
  else if c = ('b' : CodePoint) then some (CodePoint.ofNat 0x08)
  else if c = ('f' : CodePoint) then some (CodePoint.ofNat 0x0C)
  else if c = ('n' : CodePoint) then some (CodePoint.ofNat 0x0A)
  else if c = ('r' : CodePoint) then some (CodePoint.ofNat 0x0D)
  else if c = ('t' : CodePoint) then some (CodePoint.ofNat 0x09)
  else none

/-- Reads an escape from what follows its backslash, which stands at `position`: the code point it
stands for, and how many code points it takes.  An escaped high surrogate joins with an escaped
low one after it.  At least the closing quote must follow the digits. -/
def escapeAt (start position : Nat) (rest : Text) : Except ReadError (CodePoint × Nat) :=
  match rest with
  | [] => .error (.malformed .unterminatedText start)
  | e :: after =>
    if e = ('u' : CodePoint) then
      match if (after.take 5).length = 5 then hexQuad? (after.take 4) else none with
      | none => .error (.malformed .badUnicodeEscape (position + 1))
      | some high =>
        let alone : Except ReadError (CodePoint × Nat) := .ok (CodePoint.ofNat high, 5)
        if 0xD800 ≤ high ∧ high ≤ 0xDBFF ∧ (after.take 11).length = 11 ∧
            (after.drop 4).take 2 = Text.ofString "\\u" then
          match hexQuad? ((after.drop 6).take 4) with
          | none => .error (.malformed .badUnicodeEscape (position + 7))
          | some low =>
            if 0xDC00 ≤ low ∧ low ≤ 0xDFFF then
              .ok (CodePoint.ofNat (0x10000 + (high - 0xD800) * 0x400 + (low - 0xDC00)), 11)
            else alone
        else alone
    else
      match simpleEscape? e with
      | some c => .ok (c, 1)
      | none => .error (.malformed .badEscape position)

/-- Reads a text up to and past its closing quote; `start` is the position of its opening quote,
`skip` counts code points that an escape has already taken. -/
def textFrom (start : Nat) : (skip position : Nat) → Text → Except ReadError (Text × Cursor)
  | _, _, [] => .error (.malformed .unterminatedText start)
  | skip + 1, position, _ :: rest => textFrom start skip (position + 1) rest
  | 0, position, c :: rest =>
    if c = ('"' : CodePoint) then .ok ([], ⟨rest, position + 1⟩)
    else if c = ('\\' : CodePoint) then
      match escapeAt start position rest with
      | .error e => .error e
      | .ok (p, n) => (textFrom start n (position + 1) rest).map fun (t, cur) => (p :: t, cur)
    else if c.val < 0x20 then .error (.malformed .controlCharacter position)
    else (textFrom start 0 (position + 1) rest).map fun (t, cur) => (c :: t, cur)

/-- Reads a text whose opening quote stands at the cursor. -/
def textAt (cur : Cursor) : Except ReadError (Text × Cursor) :=
  textFrom cur.position 0 (cur.position + 1) (cur.rest.drop 1)

/-! ## Numbers and words -/

/-- The digits of a whole part: one zero, or a run of digits that does not begin with zero. -/
def wholeDigits (t : Text) : Text :=
  let ds := t.takeWhile CodePoint.isDigit
  if ds.head? = some ('0' : CodePoint) then ds.take 1 else ds

/-- A point with at least one digit after it, or nothing. -/
def fractionDigits (t : Text) : Text :=
  if t.head? = some ('.' : CodePoint) then
    let ds := (t.drop 1).takeWhile CodePoint.isDigit
    if ds = [] then [] else ('.' : CodePoint) :: ds
  else []

/-- An exponent mark with at least one digit after it and a sign perhaps between, or nothing. -/
def exponentDigits (t : Text) : Text :=
  match t with
  | [] => []
  | e :: rest =>
    if e.toLower = ('e' : CodePoint) then
      let sign := (rest.take 1).takeWhile fun c => c = ('+' : CodePoint) ∨ c = ('-' : CodePoint)
      let ds := (rest.drop sign.length).takeWhile CodePoint.isDigit
      if ds = [] then [] else e :: sign ++ ds
    else []

/-- Reads a number: the longest one that stands at the cursor.  Without point and exponent it is an
integer. -/
def numberAt (cur : Cursor) : Except ReadError (Value × Cursor) :=
  let sign := (cur.rest.take 1).takeWhile (· = ('-' : CodePoint))
  let whole := wholeDigits (cur.rest.drop sign.length)
  if whole = [] then cur.fault .valueExpected
  else
    let head := sign ++ whole
    let fraction := fractionDigits (cur.rest.drop head.length)
    let exponent := exponentDigits (cur.rest.drop (head.length + fraction.length))
    let all := head ++ fraction ++ exponent
    let next := cur.advance all.length
    if fraction = [] ∧ exponent = [] then
      if Text.maxDigits < whole.length then .error .integerTooLong
      else
        let n : Int := Text.digitsValue whole
        .ok (.int (if sign = [] then n else -n), next)
    else .ok (.float ((Binary64.ofText? all).getD .nan), next)

/-- The words that stand for values. -/
def words : List (Text × Value) :=
  [("null", .null), ("true", .bool true), ("false", .bool false), ("NaN", .float .nan),
    ("Infinity", .float (.infinity false)), ("-Infinity", .float (.infinity true))]

/-- Reads a word or a number. -/
def scalarAt (cur : Cursor) : Except ReadError (Value × Cursor) :=
  match words.find? fun (word, _) => word.isPrefixOf cur.rest with
  | some (word, v) => .ok (v, cur.advance word.length)
  | none => numberAt cur

/-! ## Values -/

mutual

/-- Reads a value; `depth` more levels of nesting are allowed.  Every call of the group uses up one
unit of fuel, and between two calls on the same cursor there is at most one step down. -/
def valueAt : (fuel depth : Nat) → Cursor → Except ReadError (Value × Cursor)
  | 0, _, cur => cur.fault .valueExpected
  | fuel + 1, depth, cur =>
    if cur.sees '"' then (textAt cur).map fun (t, next) => (.text t, next)
    else if cur.sees '[' then
      if depth = 0 then .error .tooDeep
      else
        let inside := (cur.advance 1).skipSpace
        if inside.sees ']' then .ok (.list [], inside.advance 1)
        else (elementsAt fuel (depth - 1) inside).map fun (xs, next) => (.list xs, next)
    else if cur.sees '\x7b' then
      if depth = 0 then .error .tooDeep
      else
        let inside := (cur.advance 1).skipSpace
        if inside.sees '\x7d' then .ok (.dict [], inside.advance 1)
        else
          (membersAt fuel (depth - 1) inside).map fun (ms, next) =>
            (.dict (Entries.ofPairs ms), next)
    else scalarAt cur

/-- Reads the elements of an array up to and past its closing bracket. -/
def elementsAt : (fuel depth : Nat) → Cursor → Except ReadError (List Value × Cursor)
  | 0, _, cur => cur.fault .valueExpected
  | fuel + 1, depth, cur =>
    match valueAt fuel depth cur with
    | .error e => .error e
    | .ok (x, after) =>
      let after := after.skipSpace
      if after.sees ']' then .ok ([x], after.advance 1)
      else if after.sees ',' then
        (elementsAt fuel depth (after.advance 1).skipSpace).map fun (xs, next) => (x :: xs, next)
      else after.fault .commaExpected

/-- Reads the members of an object up to and past its closing brace. -/
def membersAt : (fuel depth : Nat) → Cursor → Except ReadError (List (Value × Value) × Cursor)
  | 0, _, cur => cur.fault .nameExpected
  | fuel + 1, depth, cur =>
    if cur.sees '"' then
      match textAt cur with
      | .error e => .error e
      | .ok (name, after) =>
        let colon := after.skipSpace
        if colon.sees ':' then
          match valueAt fuel depth (colon.advance 1).skipSpace with
          | .error e => .error e
          | .ok (v, after) =>
            let after := after.skipSpace
            if after.sees '\x7d' then .ok ([(.text name, v)], after.advance 1)
            else if after.sees ',' then
              (membersAt fuel depth (after.advance 1).skipSpace).map fun (ms, next) =>
                ((.text name, v) :: ms, next)
            else after.fault .commaExpected
        else colon.fault .colonExpected
    else cur.fault .nameExpected

end

/-- Reads a whole text as one JSON value, blanks allowed around it. -/
def read (depth : Nat) (t : Text) : Except ReadError Value :=
  match valueAt (2 * t.length + 2) depth (Cursor.skipSpace ⟨t, 0⟩) with
  | .error e => .error e
  | .ok (v, after) =>
    let after := after.skipSpace
    if after.rest = [] then .ok v else after.fault .extraData

end FacetSearch.Json
