/-
# FacetSearch.Validation.Collection — reading lists, dictionaries and records.

A dictionary is read entry by entry, the key before the value, and keys that become the same name
keep the place of the first and the value of the last.  A record is a dictionary with known names;
names it does not know are passed over.
-/
import FacetSearch.Validation.Scalar

namespace FacetSearch

/-- Sets a name in a list of named things: in its place if it is there, at the end otherwise. -/
def setNamed {α : Type} (entries : List (Text × α)) (name : Text) (a : α) : List (Text × α) :=
  match entries with
  | [] => [(name, a)]
  | (n, b) :: rest => if n = name then (n, a) :: rest else (n, b) :: setNamed rest name a

/-- The named things left when pairs are set one after another. -/
def collectNamed {α : Type} (pairs : List (Text × α)) : List (Text × α) :=
  pairs.foldl (fun entries (name, a) => setNamed entries name a) []

/-- The members of a list without the repeats of earlier ones. -/
def distinct {α : Type} [DecidableEq α] : List α → List α
  | [] => []
  | x :: xs => x :: (distinct xs).filter (· ≠ x)

/-- A dictionary whose keys are names. -/
abbrev Record := List (Text × Value)

/-- The dictionary as a value. -/
def Record.toValue (r : Record) : Value := .dict (r.map fun (name, v) => (.text name, v))

namespace Validation

variable {α : Type}

/-- Reads a list, tuple or set member by member. -/
def listOf (read : Value → Checked α) (v : Value) : Checked (List α) :=
  match v.members? with
  | some xs => Checked.each read 0 xs
  | none => Checked.fail .notList v

/-- Reads the key of an entry, which must be a text. -/
def key (k : Value) : Checked Text :=
  Checked.under (Step.ofKey k) (Checked.under (.name "[key]") (scalar text? k))

/-- Reads the entries of a dictionary in order. -/
def entriesOf (read : Value → Checked α) : List (Value × Value) → Checked (List (Text × α))
  | [] => .ok []
  | (k, v) :: rest =>
    let entry := Checked.both (key k) (Checked.under (Step.ofKey k) (read v))
    Checked.ap (entry.map List.cons) (entriesOf read rest)

/-- Reads a dictionary with names for keys. -/
def dictOf (read : Value → Checked α) (v : Value) : Checked (List (Text × α)) :=
  match v with
  | .dict entries => (entriesOf read entries).map collectNamed
  | _ => Checked.fail .notDict v

/-- Reads a dictionary with names for keys and any values. -/
def record (v : Value) : Checked Record := dictOf (fun x => .ok x) v

/-- Reads a field of a record by its name; `absent` stands in when the name is not there. -/
def field (entries : Entries) (name : Text) (read : Value → Checked α) (absent : Checked α) :
    Checked α :=
  match entries.get? name with
  | some v => Checked.under (.name name) (read v)
  | none => absent

/-- Reads a field that goes by two names; the first name wins if both are there. -/
def fieldEither (entries : Entries) (name other : Text) (read : Value → Checked α)
    (absent : Checked α) : Checked α :=
  field entries name read (field entries other read absent)

/-- Reads a field that has to be there. -/
def required (entries : Entries) (name : Text) (read : Value → Checked α) : Checked α :=
  field entries name read (Checked.under (.name name) (Checked.fail .missing (.dict entries)))

end Validation

end FacetSearch
