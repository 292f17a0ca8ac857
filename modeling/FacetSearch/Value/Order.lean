/-
# FacetSearch.Value.Order — comparing values of any kind.

Numbers of all kinds compare by size, exactly; texts and bytes by their first difference, and so do
lists and tuples, whose members compare in turn.  A set is less than another if it is a proper part
of it.  Values of different kinds, and kinds without an order, cannot be compared.
-/
import FacetSearch.Failure

namespace FacetSearch.Value

mutual

/-- Whether two values are equal, of whatever kind. -/
def equal : Value → Value → Bool
  | .list xs, .list ys => equalAll xs ys
  | .tuple xs, .tuple ys => equalAll xs ys
  | .set xs, .set ys => equalAll xs ys
  | .dict es, .dict fs => es.length == fs.length && equalEntries es fs
  | a, b => a.sameKey b

/-- Whether two lists are equal, member by member. -/
def equalAll : List Value → List Value → Bool
  | [], [] => true
  | x :: xs, y :: ys => equal x y && equalAll xs ys
  | _, _ => false

/-- Whether all entries of a dictionary are in another. -/
def equalEntries : List (Value × Value) → Entries → Bool
  | [], _ => true
  | (k, v) :: rest, fs =>
    (match fs.find? fun (k', _) => k'.sameKey k with
      | some (_, w) => equal v w
      | none => false) && equalEntries rest fs

end

/-- Whether a list of numbers comes before another: by the first difference, or as its beginning. -/
def precedes : List Nat → List Nat → Bool
  | _, [] => false
  | [], _ :: _ => true
  | a :: as, b :: bs => if a = b then precedes as bs else a < b

/-- The failure of two values that cannot be compared. -/
def incomparable (a b : Value) : Failure :=
  .ofFault .type
    ("'<' not supported between instances of '" ++ a.kind ++ "' and '" ++ b.kind ++ "'")

/-- The order of two values that have no members.  A decimal cannot be compared with not-a-number;
doubles and integers can, and the answer is no. -/
def lessPlain (a b : Value) : Except Failure Bool :=
  match a.number?, b.number?, a.text?, b.text? with
  | some m, some n, _, _ =>
    let exact (v : Value) : Bool := match v with
      | .decimal _ => true
      | _ => false
    if m.isNan || n.isNan then
      if exact a || exact b then
        .error (.ofFault .incomparable "[<class 'decimal.InvalidOperation'>]")
      else .ok false
    else .ok (m.cmp n == .lt)
  | _, _, some s, some t => .ok (precedes (s.map (·.val)) (t.map (·.val)))
  | _, _, _, _ =>
    match a, b with
    | .bytes s, .bytes t => .ok (precedes (s.map (·.toNat)) (t.map (·.toNat)))
    | a, b => .error (incomparable a b)

mutual

/-- Whether a value is less than another. -/
def less : Value → Value → Except Failure Bool
  | .list xs, .list ys => lessAll xs ys
  | .tuple xs, .tuple ys => lessAll xs ys
  | .set xs, .set ys => .ok (decide (xs.length < ys.length) && xs.all fun x => ys.any (equal x))
  | a, b => lessPlain a b

/-- Whether a list is less than another: by the first members that are not equal, or as its
beginning. -/
def lessAll : List Value → List Value → Except Failure Bool
  | [], ys => .ok (!ys.isEmpty)
  | _ :: _, [] => .ok false
  | x :: xs, y :: ys => if equal x y then lessAll xs ys else less x y

end

end FacetSearch.Value
