/-
# FacetSearch.Value.Basic — dynamic values.

What a caller hands over, what the engine answers and what a log record carries is not known in
advance; it is a `Value`.  A dictionary is the list of its entries in order.  Two keys are the
same key when they are equal as values: numbers by size whatever their kind, a sorting mode by its
word.  Setting a key that is there keeps its place and takes the new value.
-/
import FacetSearch.Numeric.Decimal
import FacetSearch.Query.Sorting

namespace FacetSearch

/-- A dynamic value. -/
inductive Value where
  | null
  | bool (b : Bool)
  | int (n : Int)
  | float (x : Binary64)
  | decimal (d : DecimalDatum)
  | text (t : Text)
  | bytes (bs : List UInt8)
  | sorting (mode : Sorting)
  | list (xs : List Value)
  | tuple (xs : List Value)
  | set (xs : List Value)
  | dict (entries : List (Value × Value))
  deriving Repr

/-- The entries of a dictionary, in order. -/
abbrev Entries := List (Value × Value)

namespace Value

instance : Inhabited Value := ⟨.null⟩

/-- A text value from a literal. -/
def ofString (s : String) : Value := .text s

instance : Coe String Value := ⟨ofString⟩

/-- The dictionary of given names and values. -/
def record (fields : List (String × Value)) : Value :=
  .dict (fields.map fun (name, v) => (.text (Text.ofString name), v))

/-- The number that a value is, as an exact decimal: truth values count as one and zero. -/
def number? : Value → Option DecimalDatum
  | .bool b => some (.finite (Decimal.ofInt (if b then 1 else 0)))
  | .int n => some (.finite (Decimal.ofInt n))
  | .float x => some (DecimalDatum.ofBinary64 x)
  | .decimal d => some d
  | _ => none

/-- The text that a value is: a text, or the word of a sorting mode. -/
def text? : Value → Option Text
  | .text t => some t
  | .sorting mode => some mode.label
  | _ => none

/-- Two numbers of the same size; not-a-number is the same as nothing. -/
def sameNumber (a b : DecimalDatum) : Bool := !a.isNan && !b.isNan && a.cmp b == .eq

mutual

/-- Whether two values are the same key. -/
def sameKey : Value → Value → Bool
  | .null, .null => true
  | .bytes a, .bytes b => a == b
  | .tuple xs, .tuple ys => sameKeys xs ys
  | a, b =>
    match a.number?, b.number? with
    | some m, some n => sameNumber m n
    | _, _ =>
      match a.text?, b.text? with
      | some s, some t => s == t
      | _, _ => false

/-- Whether two lists of values are the same, member by member. -/
def sameKeys : List Value → List Value → Bool
  | [], [] => true
  | x :: xs, y :: ys => sameKey x y && sameKeys xs ys
  | _, _ => false

end

/-- The members of a list, tuple or set. -/
def members? : Value → Option (List Value)
  | .list xs => some xs
  | .tuple xs => some xs
  | .set xs => some xs
  | _ => none

/-- The entries of a dictionary. -/
def entries? : Value → Option Entries
  | .dict entries => some entries
  | _ => none

/-- The members that a value yields when it is walked through: of a text its code points, of a
dictionary its keys. -/
def walk? : Value → Option (List Value)
  | .text t => some (t.map fun c => .text [c])
  | .sorting mode => some (mode.label.map fun c => .text [c])
  | .bytes bs => some (bs.map fun b => .int b.toNat)
  | .dict entries => some (entries.map Prod.fst)
  | v => v.members?

/-- The word for the kind of a value. -/
def kind : Value → Text
  | .null => "NoneType"
  | .bool _ => "bool"
  | .int _ => "int"
  | .float _ => "float"
  | .decimal _ => "decimal.Decimal"
  | .text _ => "str"
  | .bytes _ => "bytes"
  | .sorting _ => "Sorting"
  | .list _ => "list"
  | .tuple _ => "tuple"
  | .set _ => "set"
  | .dict _ => "dict"

mutual

/-- Why a value cannot be a key, if it cannot: lists, sets and dictionaries change, and a signalling
not-a-number refuses. -/
def hashFault? : Value → Option Text
  | .list _ => some "unhashable type: 'list'"
  | .set _ => some "unhashable type: 'set'"
  | .dict _ => some "unhashable type: 'dict'"
  | .decimal (.nan _ true _) => some "Cannot hash a signaling NaN value"
  | .tuple xs => hashFaultOf? xs
  | _ => none

/-- The first reason among the members of a list. -/
def hashFaultOf? : List Value → Option Text
  | [] => none
  | x :: xs =>
    match hashFault? x with
    | some fault => some fault
    | none => hashFaultOf? xs

end

/-- Whether a value says anything: null, false, zero and what is empty do not. -/
def isFilled : Value → Bool
  | .null => false
  | .bool b => b
  | .int n => n ≠ 0
  | .float x => x ≠ .ofRank false 0 && x ≠ .ofRank true 0
  | .decimal (.finite d) => d.coefficient ≠ 0
  | .decimal _ => true
  | .text t => !t.isEmpty
  | .bytes bs => !bs.isEmpty
  | .sorting _ => true
  | .list xs => !xs.isEmpty
  | .tuple xs => !xs.isEmpty
  | .set xs => !xs.isEmpty
  | .dict entries => !entries.isEmpty

end Value

namespace Entries

/-- Sets a key: in its place if it is there, at the end otherwise. -/
def insert (entries : Entries) (k v : Value) : Entries :=
  match entries with
  | [] => [(k, v)]
  | (k', v') :: rest => if k'.sameKey k then (k', v) :: rest else (k', v') :: insert rest k v

/-- The entries left when pairs are set one after another. -/
def ofPairs (pairs : List (Value × Value)) : Entries :=
  pairs.foldl (fun entries (k, v) => insert entries k v) []

/-- The value under a name. -/
def get? (entries : Entries) (name : Text) : Option Value :=
  (entries.find? fun (k, _) => k.text? == some name).map Prod.snd

end Entries

end FacetSearch
