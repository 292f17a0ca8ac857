/-
# FacetSearch.Json.Plain — any value as a value that JSON knows.

An answer may carry whatever the engine returned.  Numbers that are not finite become null,
decimals their text, bytes the text that they spell in UTF-8, and tuples and sets lists; keys that
are no texts are named by their text.  Texts that UTF-8 cannot spell have no such form, and neither
has what is nested too deeply.
-/
import FacetSearch.Validation.Collection
import FacetSearch.Value.Literal

namespace FacetSearch.Json

/-! ## Nesting -/

mutual

/-- How many values stand in one another at most, the value itself among them. -/
def nesting : Value → Nat
  | .list xs => nestingOfAll xs + 1
  | .tuple xs => nestingOfAll xs + 1
  | .set xs => nestingOfAll xs + 1
  | .dict entries => nestingOfEntries entries + 1
  | _ => 1

/-- The deepest nesting among the members of a list. -/
def nestingOfAll : List Value → Nat
  | [] => 0
  | x :: xs => max (nesting x) (nestingOfAll xs)

/-- The deepest nesting among the values of a dictionary. -/
def nestingOfEntries : List (Value × Value) → Nat
  | [] => 0
  | (_, v) :: rest => max (nesting v) (nestingOfEntries rest)

end

/-- The deepest nesting that has a form. -/
def maxNesting : Nat := 255

/-! ## Keys -/

/-- A text, if UTF-8 can spell it. -/
def spelled? (t : Text) : Option Text := if t.isScalar then some t else none

mutual

/-- The name that a key gives its member; a tuple is named by all of its members. -/
def plainKey? : Value → Option Text
  | .text t => spelled? t
  | .bytes bs => Utf8.decode? bs
  | .sorting mode => some mode.label
  | .bool b => some (if b then "true" else "false")
  | .float x => some (if x.isFinite then x.toText else "None")
  | .tuple xs => (plainKeys? xs).map (Text.join ",")
  | k => spelled? k.display

/-- The names that the members of a tuple give. -/
def plainKeys? : List Value → Option (List Text)
  | [] => some []
  | x :: xs =>
    match plainKey? x, plainKeys? xs with
    | some name, some names => some (name :: names)
    | _, _ => none

end

/-! ## Values -/

mutual

/-- The form of a value that JSON knows, if there is one, however deep it is. -/
def plain? : Value → Option Value
  | .null => some .null
  | .bool b => some (.bool b)
  | .int n => some (.int n)
  | .float x => some (if x.isFinite then .float x else .null)
  | .decimal d => some (.text d.toText)
  | .text t => (spelled? t).map .text
  | .bytes bs => (Utf8.decode? bs).map .text
  | .sorting mode => some (.text mode.label)
  | .list xs => (plainMembers? xs).map .list
  | .tuple xs => (plainMembers? xs).map .list
  | .set xs => (plainMembers? xs).map .list
  | .dict entries => (plainEntries? entries).map .dict

/-- The forms of the members of a list. -/
def plainMembers? : List Value → Option (List Value)
  | [] => some []
  | x :: xs =>
    match plain? x, plainMembers? xs with
    | some y, some ys => some (y :: ys)
    | _, _ => none

/-- The forms of the entries of a dictionary. -/
def plainEntries? : List (Value × Value) → Option (List (Value × Value))
  | [] => some []
  | (k, v) :: rest =>
    match plainKey? k, plain? v, plainEntries? rest with
    | some name, some w, some entries => some ((.text name, w) :: entries)
    | _, _, _ => none

end

/-- The form of a dictionary of names, whose names can always be spelled: surrogates in them are
replaced. -/
def plainRecord? (r : Record) : Option Record :=
  r.mapM fun (name, v) =>
    if nesting v ≤ maxNesting then (plain? v).map fun w => (Utf8.replaceSurrogates name, w)
    else none

end FacetSearch.Json
