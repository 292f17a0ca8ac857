/-
# FacetSearch.Settings.EnvFile — settings in a file of assignments.

A file holds one assignment after another, `NAME=value`.  A name may be quoted and may follow the
word `export`; a value may be quoted, and then may run over several lines.  Comments begin with a
number sign, a line that is no assignment is passed over, and `${NAME}` or `${NAME:-default}` in a
value stands for what was assigned before or for a variable of the environment.
-/
import FacetSearch.Text.Blank
import FacetSearch.Validation.Collection

namespace FacetSearch.EnvFile

/-! ## Lines -/

/-- Line ends of every kind as line feeds. -/
def unifyLines : Text → Text
  | [] => []
  | [c] => if c.val = 0x0D then [CodePoint.ofChar '\n'] else [c]
  | c :: d :: rest =>
    if c.val = 0x0D then
      if d.val = 0x0A then unifyLines (d :: rest)
      else CodePoint.ofChar '\n' :: unifyLines (d :: rest)
    else c :: unifyLines (d :: rest)

def isLineFeed (c : CodePoint) : Bool := c.val = 0x0A

/-- Blanks that do not end a line. -/
def isInlineBlank (c : CodePoint) : Bool := c.isBlank && !isLineFeed c

/-- The text after the blanks of a line. -/
def skipBlanks (t : Text) : Text := t.dropWhile isInlineBlank

/-- The text after the end of the line. -/
def skipLine (t : Text) : Text := (t.dropWhile fun c => !isLineFeed c).drop 1

/-- The text after a comment and the end of the line, if nothing else stands there. -/
def lineEnd? (t : Text) : Option Text :=
  let commented := skipBlanks t
  let rest :=
    if commented.head? = some ('#' : CodePoint) then commented.dropWhile fun c => !isLineFeed c
    else commented
  match rest with
  | [] => some []
  | c :: after => if isLineFeed c then some after else none

/-! ## Quotes -/

/-- The text between quotes and what follows it, given what follows the opening quote.  A backslash
takes the code point after it along, which may be a quote but does not end a line. -/
def quoted? (quote : CodePoint) : Text → Option (Text × Text)
  | [] => none
  | [c] => if c = quote then some ([], []) else none
  | c :: d :: rest =>
    if c = quote then some ([], d :: rest)
    else if c = ('\\' : CodePoint) then
      if isLineFeed d then none
      else (quoted? quote rest).map fun (inner, after) => (c :: d :: inner, after)
    else (quoted? quote (d :: rest)).map fun (inner, after) => (c :: inner, after)

/-- What a letter after a backslash stands for between double quotes. -/
def doubleEscape? (c : CodePoint) : Option CodePoint :=
  match Char.ofNat c.val with
  | '\\' => some c
  | '\'' => some c
  | '"' => some c
  | 'a' => some (CodePoint.ofNat 0x07)
  | 'b' => some (CodePoint.ofNat 0x08)
  | 'f' => some (CodePoint.ofNat 0x0C)
  | 'n' => some (CodePoint.ofNat 0x0A)
  | 'r' => some (CodePoint.ofNat 0x0D)
  | 't' => some (CodePoint.ofNat 0x09)
  | 'v' => some (CodePoint.ofNat 0x0B)
  | _ => none

/-- What a letter after a backslash stands for between single quotes. -/
def singleEscape? (c : CodePoint) : Option CodePoint :=
  if c = ('\\' : CodePoint) ∨ c = ('\'' : CodePoint) then some c else none

/-- A text with its escapes resolved; a backslash before anything else stands for itself. -/
def unescape (escape? : CodePoint → Option CodePoint) : Text → Text
  | [] => []
  | [c] => [c]
  | c :: d :: rest =>
    if c = ('\\' : CodePoint) then
      match escape? d with
      | some e => e :: unescape escape? rest
      | none => c :: unescape escape? (d :: rest)
    else c :: unescape escape? (d :: rest)

/-! ## Assignments -/

/-- An assignment; a name that stands alone has no value. -/
structure Binding where
  name : Text
  value : Option Text
  deriving DecidableEq, Repr

/-- The text after the word `export` and blanks, if it begins that way. -/
def skipExport (t : Text) : Text :=
  match Text.dropLead? "export" t with
  | some (c :: rest) => if isInlineBlank c then skipBlanks rest else t
  | _ => t

def isNamePoint (c : CodePoint) : Bool :=
  !c.isBlank && c ≠ ('=' : CodePoint) && c ≠ ('#' : CodePoint)

/-- A name between single quotes: not empty, up to the next quote. -/
def quotedName? (t : Text) : Option (Text × Text) :=
  match Text.cutFirst '\'' t with
  | some (c :: name, rest) => some (c :: name, rest)
  | _ => none

/-- Reads a name, unless a comment begins.  Nothing reads as a name where there is none. -/
def name? (t : Text) : Option (Option Text × Text) :=
  match t with
  | c :: rest =>
    if c = ('#' : CodePoint) then some (none, t)
    else if c = ('\'' : CodePoint) then
      (quotedName? rest).map fun (name, after) => (some name, after)
    else
      let name := t.takeWhile isNamePoint
      if name.isEmpty then none else some (some name, t.drop name.length)
  | [] => none

/-- The text before a comment that blanks precede. -/
def beforeComment : Text → Text
  | [] => []
  | c :: rest =>
    if c.isBlank && (rest.dropWhile CodePoint.isBlank).head? == some ('#' : CodePoint) then []
    else c :: beforeComment rest

/-- Drops blanks at the end. -/
def trimEnd (t : Text) : Text := (t.reverse.dropWhile CodePoint.isBlank).reverse

/-- Reads a value that blanks may precede: they count only if a comment follows them. -/
def value? (spaced : Text) : Option (Text × Text) :=
  let t := skipBlanks spaced
  match t with
  | c :: rest =>
    if c = ('\'' : CodePoint) then
      (quoted? c rest).map fun (inner, after) => (unescape singleEscape? inner, after)
    else if c = ('"' : CodePoint) then
      (quoted? c rest).map fun (inner, after) => (unescape doubleEscape? inner, after)
    else
      let line := spaced.takeWhile fun c => !isLineFeed c
      some (skipBlanks (trimEnd (beforeComment line)), spaced.drop line.length)
  | [] => some ([], [])

/-- Reads what follows a name: an equals sign and a value, or nothing. -/
def assigned? (t : Text) : Except Text (Option Text × Text) :=
  match t with
  | c :: rest =>
    if c = ('=' : CodePoint) then
      match value? rest with
      | some (value, after) => .ok (some value, after)
      | none => .error (skipBlanks rest)
    else .ok (none, t)
  | [] => .ok (none, [])

/-- Reads one assignment and what is left.  Where reading fails, the rest of that line is lost. -/
def binding (t : Text) : Option Binding × Text :=
  let start := skipExport t
  match name? start with
  | none => (none, skipLine start)
  | some (name, rest) =>
    match assigned? (skipBlanks rest) with
    | .error stuck => (none, skipLine stuck)
    | .ok (value, after) =>
      match lineEnd? after with
      | some next => (name.map fun name => ⟨name, value⟩, next)
      | none => (none, skipLine (skipBlanks after))

/-- Reads assignments one after another; `fuel` bounds what is left. -/
def bindingsFrom : (fuel : Nat) → Text → List Binding
  | 0, _ => []
  | fuel + 1, t =>
    match t.dropWhile CodePoint.isBlank with
    | [] => []
    | c :: rest =>
      let (found, after) := binding (c :: rest)
      found.toList ++ bindingsFrom fuel after

/-- The mark that a file may begin with. -/
def byteOrderMark : CodePoint := CodePoint.ofNat 0xFEFF

/-- The assignments of a file, in order. -/
def bindings (t : Text) : List Binding :=
  let lines := unifyLines ((Text.dropLead? [byteOrderMark] t).getD t)
  bindingsFrom (lines.length + 1) lines

/-! ## References -/

/-- A reference in a value, after its opening brace: the name, the default, and what follows the
closing brace. -/
def reference? (t : Text) : Option (Text × Text × Text) :=
  let name := t.takeWhile fun c => c ≠ ('\x7d' : CodePoint) && c ≠ (':' : CodePoint)
  let rest := t.drop name.length
  match Text.dropLead? "\x7d" rest, Text.dropLead? ":-" rest with
  | some after, _ => some (name, [], after)
  | none, some tail =>
    (Text.cutFirst '\x7d' tail).map fun (default, after) => (name, default, after)
  | none, none => none

/-- A value with its references resolved; `fuel` bounds what is left of it. -/
def resolveFrom (lookup : Text → Option Text) : (fuel : Nat) → Text → Text
  | 0, t => t
  | _, [] => []
  | fuel + 1, c :: rest =>
    match (Text.dropLead? "$\x7b" (c :: rest)).bind reference? with
    | some (name, default, after) => (lookup name).getD default ++ resolveFrom lookup fuel after
    | none => c :: resolveFrom lookup fuel rest

/-- The assigned values, by name: an earlier assignment comes before the environment, and a name
without a value counts as empty. -/
def resolve (environment : List (Text × Text)) (bs : List Binding) : List (Text × Option Text) :=
  bs.foldl (fun known b =>
    let lookup (name : Text) : Option Text :=
      match known.find? fun (n, _) => n = name with
      | some (_, value) => some (value.getD [])
      | none => (environment.find? fun (n, _) => n = name).map Prod.snd
    setNamed known b.name (b.value.map fun v => resolveFrom lookup v.length v)) []

/-- The names and values that a file assigns. -/
def read (environment : List (Text × Text)) (t : Text) : List (Text × Option Text) :=
  resolve environment (bindings t)

end FacetSearch.EnvFile
