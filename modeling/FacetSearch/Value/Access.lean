/-
# FacetSearch.Value.Access — looking into values of any kind.

A value of the wrong kind has no members, no entries or no letters to look at; asking for them is a
failure that names the kind.
-/
import FacetSearch.Failure
import FacetSearch.Text.Blank

namespace FacetSearch.Value

/-- The failure of asking a value for what its kind does not have. -/
def lacking (v : Value) (name : Text) : Failure :=
  .ofFault .attribute ("'" ++ v.kind ++ "' object has no attribute '" ++ name ++ "'")

/-- The members that a value yields when it is walked through. -/
def walked (v : Value) : Except Failure (List Value) :=
  match v.walk? with
  | some xs => .ok xs
  | none => .error (.ofFault .type ("'" ++ v.kind ++ "' object is not iterable"))

/-- The entries of a dictionary. -/
def items (v : Value) : Except Failure Entries :=
  match v with
  | .dict entries => .ok entries
  | v => .error (v.lacking "items")

/-- ASCII white space among bytes. -/
def isBlankByte (b : UInt8) : Bool :=
  b.toNat = 0x20 || (0x09 ≤ b.toNat && b.toNat ≤ 0x0D)

/-- Whether nothing is left of a text, or of bytes, without the blanks at its ends. -/
def isBlankText (v : Value) : Except Failure Bool :=
  match v, v.text? with
  | _, some t => .ok t.isBlank
  | .bytes bs, none => .ok (bs.all isBlankByte)
  | v, none => .error (v.lacking "strip")

/-- The key and the value of a pair, which is anything that yields two members. -/
def pairOf (index : Nat) (v : Value) : Except Failure (Value × Value) :=
  match v.walk? with
  | none =>
    .error (.ofFault .type
      ("cannot convert dictionary update sequence element #" ++ Text.ofNat index ++
        " to a sequence"))
  | some [k, x] =>
    match k.hashFault? with
    | some fault => .error (.ofFault .type fault)
    | none => .ok (k, x)
  | some xs =>
    .error (.ofFault .value
      ("dictionary update sequence element #" ++ Text.ofNat index ++ " has length " ++
        Text.ofNat xs.length ++ "; 2 is required"))

/-- The pairs of a list, counted from `index`. -/
def pairsOf (index : Nat) : List Value → Except Failure (List (Value × Value))
  | [] => .ok []
  | v :: rest =>
    match pairOf index v with
    | .error failure => .error failure
    | .ok pair => (pairsOf (index + 1) rest).map (pair :: ·)

/-- The dictionary that a value makes: a dictionary itself, anything else by the pairs it yields. -/
def toEntries (v : Value) : Except Failure Entries :=
  match v with
  | .dict entries => .ok entries
  | v => do
    let pairs ← pairsOf 0 (← v.walked)
    return Entries.ofPairs pairs

end FacetSearch.Value
