/-
# FacetSearch.Failure.Kind — failures by their names.

A failure is made from the word it is known by and from arguments.  Some kinds say which arguments
they take, the others take any number of them but none by name; arguments that do not fit are a
failure of their own.
-/
import FacetSearch.Http.Status
import FacetSearch.Signature

namespace FacetSearch

/-- The kinds of failures that can be made by name. -/
inductive FailureKind where
  | domain
  | resourceNotFound
  | invalidInput
  | status
  | engine (fault : EngineFault)
  | general (fault : GeneralFault)
  deriving DecidableEq, Repr

namespace FailureKind

/-- The word by which a kind is known. -/
def name : FailureKind → Text
  | .domain => "DomainError"
  | .resourceNotFound => "ResourceNotFound"
  | .invalidInput => "InvalidInput"
  | .status => "HTTPException"
  | .engine fault => fault.name
  | .general fault => fault.name

/-- All kinds. -/
def all : List FailureKind :=
  [.domain, .resourceNotFound, .invalidInput, .status] ++
    [EngineFault.notFound, .connection, .request, .transport].map .engine ++
    [GeneralFault.runtime, .value, .key, .type, .attribute, .overflow].map .general

/-- The kind of a name. -/
def ofName? (t : Text) : Option FailureKind := all.find? fun kind => kind.name = t

/-- What a kind takes, if it says so. -/
def signature? (kind : FailureKind) : Option Signature :=
  let nothing : Option Value := some .null
  let parameters? : Option (List Parameter) :=
    match kind with
    | .resourceNotFound => some [.needed "resource", ⟨"detail", nothing⟩]
    | .invalidInput => some [.needed "message"]
    | .status => some [.needed "status_code", ⟨"detail", nothing⟩, ⟨"headers", nothing⟩]
    | _ => none
  parameters?.map fun parameters => ⟨kind.name ++ ".__init__", parameters, ["self"], []⟩

/-- The failure of a kind with the values of its parameters. -/
def ofValues (kind : FailureKind) (values : List Value) : Failure :=
  match kind, values with
  | .resourceNotFound, resource :: detail :: _ => .missing resource detail none
  | .invalidInput, message :: _ => .invalidInput message
  | .status, code :: detail :: _ => Status.failure code detail
  | .engine fault, args => .engine fault args
  | .general fault, args => .general fault args none
  | _, args => .domain args

/-- Makes a failure. -/
def make (kind : FailureKind) (g : Given) : Except Failure Failure :=
  match kind.signature? with
  | some signature => (signature.bind g).map kind.ofValues
  | none =>
    if g.named.isEmpty then .ok (kind.ofValues g.placed)
    else .error (.ofFault .type (kind.name ++ "() takes no keyword arguments"))

end FailureKind

end FacetSearch
