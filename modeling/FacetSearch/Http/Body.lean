/-
# FacetSearch.Http.Body — reading the body of a search request.

A body that is there is read as JSON if its content type says JSON, and otherwise stays bytes.
Bytes that are no text at all, a nesting that is too deep and an integer that is too long make it
unreadable; everything else that may be wrong is an issue with a place.  How deep is too deep
depends on the machine that reads.  A body that is null is there, and is refused as every value that
is no object is.
-/
import FacetSearch.Http.Message
import FacetSearch.Json.Encoding
import FacetSearch.Json.Reader
import FacetSearch.Query.Request
import FacetSearch.Text.Blank

namespace FacetSearch

/-- What can be wrong with a body. -/
inductive BodyFault where
  | unreadable
  | rejected (issues : List Issue)

namespace Body

/-- Whether a content type says JSON: `application/json` or `application/…+json`, parameters and
case aside. -/
def saysJson (contentType : Text) : Bool :=
  let essence := ((Text.cutFirst ';' contentType).map Prod.fst).getD contentType
  match Text.splitOn '/' essence.trimBlank.lower with
  | [main, sub] =>
    main == Text.ofString "application" &&
      (sub == Text.ofString "json" ||
        (Text.dropLead? (Text.ofString "+json").reverse sub.reverse).isSome)
  | _ => false

/-- The issue of a text that is no JSON. -/
def jsonIssue (fault : Json.Fault) (position : Nat) : Issue :=
  ⟨.badJson fault.message, [.index position], .dict []⟩

/-- Reads bytes as JSON that is nested no deeper than `maxDepth`. -/
def readJson (maxDepth : Nat) (bytes : List UInt8) : Except BodyFault Value :=
  match Json.textOf? bytes with
  | none => .error .unreadable
  | some text =>
    match Json.read maxDepth text with
    | .ok v => .ok v
    | .error (.malformed fault position) => .error (.rejected [jsonIssue fault position])
    | .error _ => .error .unreadable

/-- The value that a body which is there stands for. -/
def content (maxDepth : Nat) (headers : Headers) (bytes : List UInt8) : Except BodyFault Value :=
  if saysJson ((headers.get? "content-type").getD []) then readJson maxDepth bytes
  else .ok (.bytes bytes)

/-- Reads the body of a search request. -/
def read (maxDepth : Nat) (headers : Headers) (bytes : List UInt8) : Except BodyFault Request :=
  if bytes.isEmpty then .error (.rejected [⟨.missing, [], .null⟩])
  else
    match content maxDepth headers bytes with
    | .error fault => .error fault
    | .ok v => (Request.readOr .notObject v).mapError .rejected

end Body

end FacetSearch
