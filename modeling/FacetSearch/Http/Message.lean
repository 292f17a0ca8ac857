/-
# FacetSearch.Http.Message — requests and responses.

A response that carries JSON exists only if its content can be written: a number that is not
finite, a value that JSON does not know or a text that UTF-8 cannot spell is a failure instead.
-/
import FacetSearch.Http.Status
import FacetSearch.Http.Target
import FacetSearch.Json.Writer

namespace FacetSearch

/-- The headers of a message, in order. -/
abbrev Headers := List (Text × Text)

/-- The value of the first header of a name, whatever the case of its letters. -/
def Headers.get? (headers : Headers) (name : Text) : Option Text :=
  (headers.find? fun (n, _) => n.lower = name).map Prod.snd

/-- A request as it arrives. -/
structure HttpRequest where
  method : Text
  target : Target
  headers : Headers
  body : List UInt8

/-- A response as it leaves. -/
structure HttpResponse where
  status : StatusCode
  headers : Headers
  body : Text
  deriving DecidableEq, Repr

namespace HttpResponse

/-- The failure of a content that could not be written. -/
def ofWriteFault : Json.WriteFault → Failure
  | .notFinite => Failure.ofFault .value "Out of range float values are not JSON compliant"
  | .unknownKind v =>
    Failure.ofFault .type ("Object of type " ++ v.kind ++ " is not JSON serializable")
  | .badKey k =>
    Failure.ofFault .type ("keys must be str, int, float, bool or None, not " ++ k.kind)
  | .tooLong => Failure.ofFault .value Value.tooLong

/-- The failure of a text that UTF-8 cannot spell. -/
def unencodable : Failure :=
  Failure.ofFault .unencodable "'utf-8' codec can't encode: surrogates not allowed"

/-- The JSON text of a content. -/
def jsonBody (content : Value) : Except Failure Text :=
  match Json.write .body content with
  | .error fault => .error (ofWriteFault fault)
  | .ok body => if body.isScalar then .ok body else .error unencodable

/-- A response with a JSON text. -/
def ofJson (status : StatusCode) (body : Text) : HttpResponse :=
  ⟨status, [("content-type", "application/json")], body⟩

/-- A response with a JSON content. -/
def json (status : Int) (content : Value) : Except Failure HttpResponse :=
  (jsonBody content).map (ofJson (.number status))

/-- A response that sends the client elsewhere. -/
def redirect (location : Text) : HttpResponse :=
  ⟨.number 307, [("location", location)], []⟩

/-- Adds a header. -/
def withHeader (r : HttpResponse) (name value : Text) : HttpResponse :=
  { r with headers := r.headers ++ [(name, value)] }

end HttpResponse

end FacetSearch
