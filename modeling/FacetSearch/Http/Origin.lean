/-
# FacetSearch.Http.Origin — where a request says it goes.

The address of a request begins with the host that the request names in a header.  A header that is
no host, with a port or without, is passed over, and the host of the server stands in.
-/
import FacetSearch.Http.Message

namespace FacetSearch.Origin

/-- The name of the header that names the host. -/
def header : Text := "host"

/-- The code points of a host that is a name. -/
def isNamePoint (c : CodePoint) : Bool :=
  c.isLetter || c.isDigit || (Text.ofString "-._~!$&'()*+,;=%").contains c

/-- The code points of a host in brackets. -/
def isNumericPoint (c : CodePoint) : Bool :=
  c.hexValue?.isSome || (Text.ofString ":.").contains c

/-- Nothing, or a colon and digits. -/
def isPort : Text → Bool
  | [] => true
  | c :: digits => c == ':' && digits.all CodePoint.isDigit

/-- Whether a text is a host, with a port or without. -/
def isHost (t : Text) : Bool :=
  match Text.dropLead? "[" t with
  | some rest =>
    match Text.cutFirst ']' rest with
    | some (address, port) => !address.isEmpty && address.all isNumericPoint && isPort port
    | none => false
  | none =>
    let name := t.takeWhile isNamePoint
    !name.isEmpty && isPort (t.drop name.length)

/-- The host of a request, where `serverHost` stands in if it names none. -/
def hostOf (serverHost : Text) (headers : Headers) : Text :=
  match headers.get? header with
  | some host => if isHost host then host else serverHost
  | none => serverHost

/-- Scheme and host of the addresses of a request. -/
def ofHeaders (serverHost : Text) (headers : Headers) : Text :=
  "http://" ++ hostOf serverHost headers

end FacetSearch.Origin
