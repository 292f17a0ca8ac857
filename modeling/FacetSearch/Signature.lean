/-
# FacetSearch.Signature — giving arguments to what is called by name.

A signature names the parameters of an operation.  A call gives values by place and by name; binding
finds the value of every parameter, or says what does not fit: a name that is unknown or already has
its value, too many values by place, or parameters left without one.  What is wrong with the names
is noticed first.
-/
import FacetSearch.Failure
import FacetSearch.Validation.Collection

namespace FacetSearch

/-- A parameter, and what stands in for it if it is not given. -/
structure Parameter where
  name : Text
  default : Option Value

/-- What a call gives: values by place, and values by name. -/
structure Given where
  placed : List Value
  named : Record

/-- What an operation takes.  `receivers` are parameters that every call gives of itself before all
others, and `options` can only be given by name. -/
structure Signature where
  name : Text
  parameters : List Parameter
  receivers : List Text
  options : List Text

/-- A parameter that has to be given. -/
def Parameter.needed (name : Text) : Parameter := ⟨name, none⟩

namespace Signature

/-- The failure of a call, told under the name of the operation. -/
def fault (s : Signature) (text : Text) : Failure := .ofFault .type (s.name ++ "() " ++ text)

/-- The parameters that the values by place are for. -/
def taken (s : Signature) (g : Given) : List Text :=
  s.receivers ++ (s.parameters.take g.placed.length).map Parameter.name

/-- What is wrong with a name by which a value is given. -/
def nameFault? (s : Signature) (g : Given) (name : Text) : Option Failure :=
  if (s.taken g).contains name then
    some (s.fault ("got multiple values for argument '" ++ name ++ "'"))
  else if (s.parameters.map Parameter.name ++ s.options).contains name then none
  else some (s.fault ("got an unexpected keyword argument '" ++ name ++ "'"))

/-- The ending of a noun that is counted. -/
def plural (n : Nat) : Text := if n = 1 then "" else "s"

/-- The failure of too many values by place. -/
def tooMany (s : Signature) (g : Given) : Failure :=
  let most := s.receivers.length + s.parameters.length
  let least := most - (s.parameters.filter fun p => p.default.isSome).length
  let given := s.receivers.length + g.placed.length
  let options := (g.named.filter fun (name, _) => s.options.contains name).length
  let allowed : Text :=
    if least = most then Text.ofNat most ++ " positional argument" ++ plural most
    else "from " ++ Text.ofNat least ++ " to " ++ Text.ofNat most ++ " positional arguments"
  let beside : Text :=
    if options = 0 then []
    else " positional argument" ++ plural given ++ " (and " ++ Text.ofNat options ++
      " keyword-only argument" ++ plural options ++ ")"
  let verb : Text := if given = 1 ∧ options = 0 then " was given" else " were given"
  s.fault ("takes " ++ allowed ++ " but " ++ Text.ofNat given ++ beside ++ verb)

/-- Names in quotes, as an enumeration. -/
def enumeration (names : List Text) : Text :=
  let quoted : List Text := names.map fun name => "'" ++ name ++ "'"
  match quoted.reverse with
  | [] => []
  | [a] => a
  | [b, a] => a ++ " and " ++ b
  | c :: rest => Text.join ", " rest.reverse ++ ", and " ++ c

/-- The failure of parameters that are left without a value. -/
def missing (s : Signature) (names : List Text) : Failure :=
  s.fault ("missing " ++ Text.ofNat names.length ++ " required positional argument" ++
    plural names.length ++ ": " ++ enumeration names)

/-- The value of a parameter that no value by place is for. -/
def later? (g : Given) (p : Parameter) : Option Value :=
  match g.named.find? fun (name, _) => name = p.name with
  | some (_, v) => some v
  | none => p.default

/-- The values of all parameters, in order. -/
def bind (s : Signature) (g : Given) : Except Failure (List Value) :=
  let rest := s.parameters.drop g.placed.length
  match g.named.findSome? fun (name, _) => s.nameFault? g name with
  | some failure => .error failure
  | none =>
    if s.parameters.length < g.placed.length then .error (s.tooMany g)
    else
      match (rest.filter fun p => (later? g p).isNone).map Parameter.name with
      | [] => .ok (g.placed ++ rest.filterMap (later? g))
      | names => .error (s.missing names)

end Signature

end FacetSearch
