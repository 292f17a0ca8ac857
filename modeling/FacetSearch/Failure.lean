/-
# FacetSearch.Failure — the ways in which a call can fail.

A failure is its cause: a refusal of the domain, an answer with an HTTP status, an error of the
engine's client, an input that could not be read, or a fault of a general kind.  `name` is the
word by which logs and answers know a failure, `message` its text.
-/
import FacetSearch.Validation.Issue

namespace FacetSearch

/-- The errors that the engine's client raises. -/
inductive EngineFault where
  | notFound
  | connection
  | request
  | transport
  deriving DecidableEq, Repr

/-- Faults that are known by a name and carry nothing but arguments. -/
inductive GeneralFault where
  | runtime
  | value
  | key
  | type
  | attribute
  | index
  | overflow
  | system
  | location
  | unwritable
  | unencodable
  | incomparable
  deriving DecidableEq, Repr

/-- The ways in which a call can fail. -/
inductive Failure where
  /-- The domain refuses, for a reason given in the arguments. -/
  | domain (args : List Value)
  /-- Something that was asked for is not there; `cause` is the engine's error behind it. -/
  | resourceNotFound (resource : Value) (message : Value) (cause : Option EngineFault)
  /-- An input makes no sense to the domain. -/
  | invalidInput (message : Value)
  /-- The answer is to have this status and detail. -/
  | status (code : Value) (detail : Value)
  /-- The engine's client failed. -/
  | engine (fault : EngineFault) (args : List Value)
  /-- A value could not be read as what it should be. -/
  | invalid (model : Text) (issues : List Issue)
  /-- A fault of a general kind, perhaps raised because of another. -/
  | general (fault : GeneralFault) (args : List Value) (cause : Option GeneralFault)

namespace EngineFault

def name : EngineFault → Text
  | .notFound => "NotFoundError"
  | .connection => "ConnectionError"
  | .request => "RequestError"
  | .transport => "TransportError"

end EngineFault

namespace GeneralFault

def name : GeneralFault → Text
  | .runtime => "RuntimeError"
  | .value => "ValueError"
  | .key => "KeyError"
  | .type => "TypeError"
  | .attribute => "AttributeError"
  | .index => "IndexError"
  | .overflow => "OverflowError"
  | .system => "OSError"
  | .location => "LocationParseError"
  | .unwritable => "PydanticSerializationError"
  | .unencodable => "UnicodeEncodeError"
  | .incomparable => "InvalidOperation"

end GeneralFault

namespace Failure

/-- A general fault with one text for an argument. -/
def ofFault (fault : GeneralFault) (message : Text) : Failure :=
  .general fault [.text message] none

/-- What was asked for is missing; without a detail of its own the text names the resource. -/
def missing (resource : Value) (detail : Value) (cause : Option EngineFault) : Failure :=
  let message := if detail.isFilled then detail else .text (resource.display ++ " not found")
  .resourceNotFound resource message cause

/-- The word by which a failure is known. -/
def name : Failure → Text
  | .domain _ => "DomainError"
  | .resourceNotFound .. => "ResourceNotFound"
  | .invalidInput _ => "InvalidInput"
  | .status .. => "HTTPException"
  | .engine fault _ => fault.name
  | .invalid .. => "ValidationError"
  | .general fault .. => fault.name

/-- The place where the name of a failure is at home; other names are at home everywhere. -/
def home : Failure → Text
  | .domain _ | .resourceNotFound .. | .invalidInput _ => "product_search.app.platform.exceptions."
  | .status .. => "starlette.exceptions."
  | .engine .. => "opensearchpy.exceptions."
  | _ => []

/-- The text of a list of arguments: nothing, the one argument, or all of them in brackets. -/
def argsText : List Value → Text
  | [] => []
  | [v] => v.display
  | vs => (Value.tuple vs).literal

/-- The reason that the engine gives in the details of an error. -/
def engineReason (details : Value) : Text :=
  let error? := details.entries?.bind (Entries.get? · "error")
  match error? with
  | some (.dict entries) =>
    match Entries.get? entries "root_cause" with
    | some (.list (.dict root :: _)) =>
      let pieces := [(Entries.get? root "reason").map Value.literal,
        (Entries.get? root "resource.id").map Value.display,
        (Entries.get? root "resource.type").map Value.display]
      Text.join ", " ((pieces.filterMap id).filter (· ≠ []))
    | _ => []
  | some v => v.literal
  | none => []

/-- The text of an error of the engine's client.  It tells the code, the error and the details in
its arguments; it has none if it lacks one of those that it tells, but for the reason in the
details. -/
def engineText? (fault : EngineFault) (args : List Value) : Option Text :=
  match fault, args with
  | .connection, _ :: error :: details :: _ =>
    some ("ConnectionError(" ++ error.display ++ ") caused by: " ++ details.kind ++ "(" ++
      details.display ++ ")")
  | .connection, _ => none
  | fault, code :: error :: rest =>
    let pieces := [code.display, error.literal, (rest.head?.map engineReason).getD []]
    some (fault.name ++ "(" ++ Text.join ", " (pieces.filter (· ≠ [])) ++ ")")
  | _, _ => none

/-- The text of a failure. -/
def message : Failure → Text
  | .domain args => argsText args
  | .resourceNotFound _ message _ => message.display
  | .invalidInput message => message.display
  | .status code detail => code.display ++ ": " ++ detail.display
  | .engine fault args => (engineText? fault args).getD []
  | .invalid model _ => model
  | .general .key [v] _ => v.literal
  | .general _ args _ => argsText args

/-- The text of a failure, or the failure of asking for it. -/
def said (failure : Failure) : Except Failure Text :=
  match failure with
  | .engine fault args =>
    match engineText? fault args with
    | some t => .ok t
    | none => .error (.ofFault .index "tuple index out of range")
  | f => .ok f.message

/-- A failure in one line, where nothing is known of the way that it took: its full name, and what
it says if it says anything. -/
def headline (failure : Failure) : Text :=
  let fullName := failure.home ++ failure.name
  match failure.said with
  | .ok [] => fullName
  | .ok text => fullName ++ ": " ++ text
  | .error _ => fullName ++ ": <exception str() failed>"

/-- Whether a failure is a refusal of the domain. -/
def isDomain : Failure → Bool
  | .domain _ => true
  | .resourceNotFound .. => true
  | .invalidInput _ => true
  | _ => false

end Failure

end FacetSearch
