/-
# FacetSearch.Logging.Template — messages with places for arguments.

A template is a text with conversions in it: a percent sign, perhaps the name of an argument in
brackets, flags, a width, a precision and a letter.  Arguments are taken in order from a tuple, or
by name from a dictionary; anything else is the one argument.  A conversion that does not fit its
argument is a failure, and so are arguments too few or too many.
-/
import FacetSearch.Failure
import FacetSearch.Numeric.Fixed

namespace FacetSearch.Logging.Template

/-- The arguments that are left, and the value in which names are looked up. -/
structure Arguments where
  left : List Value
  named : Option Value

/-- The layout of a conversion. -/
structure Layout where
  leftAligned : Bool
  signed : Bool
  blank : Bool
  alternate : Bool
  zeroed : Bool
  width : Nat
  precision : Option Nat

/-- The arguments that a value stands for: the members of a tuple, or the value itself.  A value
with parts gives names besides, though only a dictionary knows any. -/
def Arguments.ofValue : Value → Arguments
  | .tuple xs => ⟨xs, none⟩
  | .dict entries => ⟨[.dict entries], some (.dict entries)⟩
  | .list xs => ⟨[.list xs], some (.list xs)⟩
  | .bytes bs => ⟨[.bytes bs], some (.bytes bs)⟩
  | v => ⟨[v], none⟩

def typeFault (message : Text) : Failure := Failure.ofFault .type message

def valueFault (message : Text) : Failure := Failure.ofFault .value message

def overflowFault (message : Text) : Failure := Failure.ofFault .overflow message

def incomplete : Failure := valueFault "incomplete format"

/-- Takes the next argument. -/
def Arguments.take (a : Arguments) : Except Failure (Value × Arguments) :=
  match a.left with
  | v :: rest => .ok (v, { a with left := rest })
  | [] => .error (typeFault "not enough arguments for format string")

/-! ## Pieces of a conversion -/

/-- The text up to the bracket that closes, `depth` brackets being open, and what follows it. -/
def closing? : (depth : Nat) → Text → Option (Text × Text)
  | _, [] => none
  | depth, c :: rest =>
    if c = (')' : CodePoint) then
      match depth with
      | 0 => some ([], rest)
      | depth + 1 => (closing? depth rest).map fun (name, after) => (c :: name, after)
    else
      let depth' := if c = ('(' : CodePoint) then depth + 1 else depth
      (closing? depth' rest).map fun (name, after) => (c :: name, after)

/-- Makes the argument of a given name the next one. -/
def Arguments.select (a : Arguments) (name : Text) : Except Failure Arguments :=
  match a.named with
  | none => .error (typeFault "format requires a mapping")
  | some (.dict entries) =>
    match Entries.get? entries name with
    | some v => .ok { a with left := [v] }
    | none => .error (.general .key [.text name] none)
  | some (.bytes _) => .error (typeFault "byte indices must be integers or slices, not str")
  | some v => .error (typeFault (v.kind ++ " indices must be integers or slices, not str"))

/-- Reads a name in brackets, if there is one. -/
def takeName (a : Arguments) (t : Text) : Except Failure (Arguments × Text) :=
  match t with
  | c :: rest =>
    if c = ('(' : CodePoint) then
      if a.named.isNone then .error (typeFault "format requires a mapping")
      else
        match closing? 0 rest with
        | none => .error (valueFault "incomplete format key")
        | some (name, after) => (a.select name).map fun a' => (a', after)
    else .ok (a, t)
  | [] => .ok (a, t)

def isFlag (c : CodePoint) : Bool := (Text.ofString "-+ #0").contains c

/-- What bounds a size: the greatest one, and what is said of one that is greater, whether it is
written in digits or given as an argument. -/
structure SizeLimit where
  greatest : Nat
  written : Text
  given : Text

/-- The limit of a width. -/
def widthLimit : SizeLimit :=
  ⟨9223372036854775807, "width too big", "Python int too large to convert to C ssize_t"⟩

/-- The limit of a precision. -/
def precisionLimit : SizeLimit :=
  ⟨2147483647, "precision too big", "Python int too large to convert to C int"⟩

/-- Reads a size: digits, or a star that stands for the next argument.  No size reads as none. -/
def takeSize (limit : SizeLimit) (a : Arguments) (t : Text) :
    Except Failure (Option Int × Arguments × Text) :=
  match t with
  | c :: rest =>
    if c = ('*' : CodePoint) then
      match a.take with
      | .error e => .error e
      | .ok (.int n, a') =>
        if -(limit.greatest : Int) - 1 ≤ n ∧ n ≤ limit.greatest then .ok (some n, a', rest)
        else .error (overflowFault limit.given)
      | .ok (.bool b, a') => .ok (some (if b then 1 else 0), a', rest)
      | .ok _ => .error (typeFault "* wants int")
    else
      let ds := t.takeWhile CodePoint.isDigit
      let n := Text.digitsValue ds
      if ds.isEmpty then .ok (none, a, t)
      else if limit.greatest < n then .error (valueFault limit.written)
      else .ok (some (n : Int), a, t.drop ds.length)
  | [] => .ok (none, a, t)

/-- Reads a precision after its point. -/
def takePrecision (a : Arguments) (t : Text) :
    Except Failure (Option Nat × Arguments × Text) :=
  match t with
  | c :: rest =>
    if c = ('.' : CodePoint) then
      (takeSize precisionLimit a rest).map fun (size, a', after) =>
        (some ((size.getD 0).toNat), a', after)
    else .ok (none, a, t)
  | [] => .ok (none, a, t)

def isLengthLetter (c : CodePoint) : Bool := (Text.ofString "hlL").contains c

/-- The text without one length letter in front, which means nothing. -/
def skipLength : Text → Text
  | c :: rest => if isLengthLetter c then rest else c :: rest
  | [] => []

/-! ## Conversions -/

/-- Fills a text up to the width of a layout. -/
def fill (l : Layout) (t : Text) : Text :=
  if l.leftAligned then t.padRight l.width ' ' else t.padLeft l.width ' '

/-- The sign of a number, the plus sign or the blank that a layout asks for, and the digits. -/
def splitSign (l : Layout) (t : Text) : Text × Text :=
  match t with
  | c :: rest =>
    if c = ('-' : CodePoint) ∨ c = ('+' : CodePoint) then ([c], rest)
    else if l.signed then ("+", t)
    else if l.blank then (" ", t)
    else ([], t)
  | [] => ([], t)

/-- Fills a number up to the width of a layout: zeros stand between the sign, the mark of its base
and the digits, blanks around all of them. -/
def fillNumber (l : Layout) (mark digits : Text) : Text :=
  let (sign, rest) := splitSign l digits
  let lead := sign ++ mark
  if l.zeroed && !l.leftAligned then lead ++ rest.padLeft (l.width - lead.length) '0'
  else fill l (lead ++ rest)

/-- The text of a value in ASCII: everything else is escaped. -/
def asciiLiteral (v : Value) : Text :=
  v.literal.flatMap fun c => if c.val < 0x80 then [c] else Quoted.escapeHex c

/-- A text cut at the precision of a layout and filled. -/
def textPiece (l : Layout) (t : Text) : Text :=
  fill l (match l.precision with
    | some n => t.take n
    | none => t)

/-- The failure of a letter that wants an integer. -/
def wrongInteger (letter : CodePoint) (wanted : Text) (v : Value) : Failure :=
  typeFault ([CodePoint.ofChar '%', letter] ++ " format: " ++ wanted ++ " is required, not " ++
    v.kind)

/-- The integer that a decimal letter shows; fractional parts are dropped. -/
def decimalInteger (letter : CodePoint) (v : Value) : Except Failure Int :=
  match v with
  | .bool b => .ok (if b then 1 else 0)
  | .int n => .ok n
  | .float .nan => .error (valueFault "cannot convert float NaN to integer")
  | .float x =>
    match x.truncate? with
    | some n => .ok n
    | none => .error (overflowFault "cannot convert float infinity to integer")
  | .decimal (.finite d) => .ok d.truncate
  | .decimal (.infinity _) => .error (overflowFault "cannot convert Infinity to integer")
  | .decimal (.nan ..) => .error (valueFault "cannot convert NaN to integer")
  | v => .error (wrongInteger letter "a real number" v)

/-- The integer that a letter of another base shows. -/
def exactInteger (letter : CodePoint) (v : Value) : Except Failure Int :=
  match v with
  | .bool b => .ok (if b then 1 else 0)
  | .int n => .ok n
  | v => .error (wrongInteger letter "an integer" v)

/-- The integer, if it can be shown in decimal digits. -/
def showable (n : Int) : Except Failure Int :=
  if ShortInteger n then .ok n else .error (valueFault Value.tooLong)

/-- The piece that a text of a value makes, if the value has texts at all. -/
def shownPiece (l : Layout) (v : Value) (text : Value → Text) : Except Failure Text :=
  if v.hasText then .ok (textPiece l (text v)) else .error (valueFault Value.tooLong)

/-- The number that a letter with a point shows. -/
def realNumber (v : Value) : Except Failure Binary64 :=
  match v with
  | .bool b => .ok (.ofInt (if b then 1 else 0))
  | .int n =>
    let x := Binary64.ofInt n
    if x.isFinite then .ok x else .error (overflowFault "int too large to convert to float")
  | .float x => .ok x
  | .decimal (.finite d) => .ok d.toBinary64
  | .decimal (.infinity negative) => .ok (.infinity negative)
  | .decimal (.nan _ true _) => .error (valueFault "cannot convert signaling NaN to float")
  | .decimal (.nan ..) => .ok .nan
  | v => .error (typeFault ("must be real number, not " ++ v.kind))

/-- An integer in a base, with at least as many digits as the precision says. -/
def integerPiece (l : Layout) (base : Nat) (mark : Text) (n : Int) : Text :=
  let plain : Text := (Nat.toDigits base n.natAbs).map CodePoint.ofChar
  let digits := plain.padLeft (l.precision.getD 0) '0'
  let sign : Text := if n < 0 then "-" else ""
  fillNumber l (if l.alternate then mark else []) (sign ++ digits)

/-- A number in a notation, six digits after the point unless a precision says otherwise. -/
def realPiece (l : Layout) (form : Binary64.NumberForm) (x : Binary64) : Text :=
  fillNumber l [] (x.formatted form l.alternate (l.precision.getD 6))

/-- A single code point, given by itself or by its number. -/
def pointPiece (l : Layout) (v : Value) : Except Failure Text :=
  match v with
  | .bool b => .ok (fill l [CodePoint.ofNat (if b then 1 else 0)])
  | .int n =>
    if 0 ≤ n ∧ n < 0x110000 then .ok (fill l [CodePoint.ofNat n.toNat])
    else .error (overflowFault "%c arg not in range(0x110000)")
  | v =>
    match v.text? with
    | some [c] => .ok (fill l [c])
    | _ => .error (typeFault "%c requires int or char")

/-- The failure of a letter that means nothing, `index` being its place in the template. -/
def unknownLetter (letter : CodePoint) (index : Nat) : Failure :=
  let shown : CodePoint := if 31 ≤ letter.val ∧ letter.val ≤ 126 then letter else '?'
  valueFault ("unsupported format character '" ++ [shown] ++ "' (0x" ++
    (Nat.toDigits 16 letter.val).map CodePoint.ofChar ++ ") at index " ++ Text.ofNat index)

/-- What a conversion makes of its argument. -/
def convert (l : Layout) (letter : CodePoint) (index : Nat) (v : Value) : Except Failure Text :=
  match Char.ofNat letter.val with
  | 's' => shownPiece l v Value.display
  | 'r' => shownPiece l v Value.literal
  | 'a' => shownPiece l v asciiLiteral
  | 'c' => pointPiece l v
  | 'd' => ((decimalInteger letter v).bind showable).map (integerPiece l 10 [])
  | 'i' => ((decimalInteger letter v).bind showable).map (integerPiece l 10 [])
  | 'u' => ((decimalInteger letter v).bind showable).map (integerPiece l 10 [])
  | 'o' => (exactInteger letter v).map (integerPiece l 8 "0o")
  | 'x' => (exactInteger letter v).map (integerPiece l 16 "0x")
  | 'X' => (exactInteger letter v).map fun n => (integerPiece l 16 "0x" n).upper
  | 'f' => (realNumber v).map (realPiece l .fixed)
  | 'F' => (realNumber v).map fun x => (realPiece l .fixed x).upper
  | 'e' => (realNumber v).map (realPiece l .scientific)
  | 'E' => (realNumber v).map fun x => (realPiece l .scientific x).upper
  | 'g' => (realNumber v).map (realPiece l .general)
  | 'G' => (realNumber v).map fun x => (realPiece l .general x).upper
  | _ => .error (unknownLetter letter index)

/-! ## Whole templates -/

/-- The layout that flags and sizes make up; a negative width aligns to the left. -/
def layoutOf (flags : Text) (width : Option Int) (precision : Option Nat) : Layout where
  leftAligned := flags.contains ('-' : CodePoint) || decide (width.getD 0 < 0)
  signed := flags.contains ('+' : CodePoint)
  blank := flags.contains (' ' : CodePoint)
  alternate := flags.contains ('#' : CodePoint)
  zeroed := flags.contains ('0' : CodePoint)
  width := (width.getD 0).natAbs
  precision := precision

/-- Carries out the conversion after a percent sign, where a second one stands for itself; `length`
is that of the whole template. -/
def conversion (length : Nat) (a : Arguments) (t : Text) :
    Except Failure (Text × Arguments × Text) := do
  if t.isEmpty then throw incomplete
  if t.head? = some ('%' : CodePoint) then return ([CodePoint.ofChar '%'], a, t.drop 1)
  let (a, t) ← takeName a t
  let flags := t.takeWhile isFlag
  let (width, a, t) ← takeSize widthLimit a (t.drop flags.length)
  let (precision, a, t) ← takePrecision a t
  match skipLength t with
  | [] => throw incomplete
  | letter :: rest =>
    let (v, a) ← a.take
    let piece ← convert (layoutOf flags width precision) letter (length - rest.length - 1) v
    return (piece, a, rest)

/-- Fills in a template from the place where `fuel` bounds what is left of it. -/
def fillFrom (length : Nat) : (fuel : Nat) → Arguments → Text → Except Failure (Text × Arguments)
  | 0, a, _ => .ok ([], a)
  | _, a, [] => .ok ([], a)
  | fuel + 1, a, c :: rest =>
    if c = ('%' : CodePoint) then
      match conversion length a rest with
      | .error e => .error e
      | .ok (piece, a', after) =>
        (fillFrom length fuel a' after).map fun (t, a'') => (piece ++ t, a'')
    else (fillFrom length fuel a rest).map fun (t, a') => (c :: t, a')

/-- Fills in a template.  All arguments have to be used, unless there are names. -/
def format (template : Text) (args : Value) : Except Failure Text :=
  match fillFrom template.length template.length (.ofValue args) template with
  | .error e => .error e
  | .ok (t, a) =>
    if !a.left.isEmpty && a.named.isNone then
      .error (typeFault "not all arguments converted during string formatting")
    else .ok t

end FacetSearch.Logging.Template
