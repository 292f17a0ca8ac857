/-
# FacetSearch.Engine.Address — where the engine is.

An address is read from a URL as it is typed into a setting: blanks in front and line ends anywhere
do not count, a user name before the last `@` and everything after the host and port are passed
over, and a scheme or port that is missing is filled in.  A host there has to be.
-/
import FacetSearch.Engine.Host
import FacetSearch.Value.Access

namespace FacetSearch

/-- Where the engine is. -/
structure Address where
  scheme : Text
  host : Text
  port : Nat
  deriving DecidableEq, Repr

/-- What can be wrong with the URL of the engine. -/
inductive AddressFault where
  | unbalancedBrackets
  | notAnAddress (t : Text)
  | bracketedV4
  | unknownVersion
  | compatibility (authority : Text)
  | portUnreadable (t : Text)
  | portTooLong (digits : Nat)
  | portOutOfRange
  | noHost
  | badHost (fault : HostFault)
  deriving DecidableEq, Repr

namespace AddressFault

/-- The wording of a fault. -/
def message : AddressFault → Text
  | .unbalancedBrackets => "Invalid IPv6 URL"
  | .notAnAddress t => Quoted.ofText t ++ " does not appear to be an IPv4 or IPv6 address"
  | .bracketedV4 => "An IPv4 address cannot be in brackets"
  | .unknownVersion => "IPvFuture address is invalid"
  | .compatibility authority =>
    "netloc '" ++ authority ++ "' contains invalid characters under NFKC normalization"
  | .portUnreadable t => "Port could not be cast to integer value as " ++ Quoted.ofText t
  | .portTooLong digits =>
    "Exceeds the limit (4300 digits) for integer string conversion: value has " ++
      Text.ofNat digits ++
      " digits; use sys.set_int_max_str_digits() to increase the limit"
  | .portOutOfRange => "Port out of range 0-65535"
  | .noHost => "argument of type 'NoneType' is not iterable"
  | .badHost fault => "Failed to parse: " ++ fault.message

/-- The fault as a failure. -/
def toFailure (fault : AddressFault) : Failure :=
  match fault with
  | .noHost => Failure.ofFault .type fault.message
  | .badHost _ => Failure.ofFault .location fault.message
  | fault => Failure.ofFault .value fault.message

end AddressFault

namespace Address

/-- The scheme of an address that names none. -/
def defaultScheme : Text := "http"

/-- The port of an address that names none. -/
def defaultPort : Nat := 9200

/-- A text without the controls and blanks in front of it and without tabs and line ends. -/
def cleaned (t : Text) : Text :=
  (t.dropWhile (·.val ≤ 0x20)).filter fun c => c.val ≠ 0x09 && c.val ≠ 0x0A && c.val ≠ 0x0D

/-- The code points of a scheme. -/
def isSchemePoint (c : CodePoint) : Bool :=
  c.isLetter || c.isDigit || (Text.ofString "+-.").contains c

/-- The scheme in front of the first colon, in small letters, and what follows; a text that has no
scheme has an empty one. -/
def splitScheme (t : Text) : Text × Text :=
  match Text.cutFirst ':' t with
  | some (c :: rest, after) =>
    if c.isLetter && rest.all isSchemePoint then (Text.lower (c :: rest), after) else ([], t)
  | _ => ([], t)

/-- The authority after two slashes, up to where a path, a query or a fragment begins. -/
def authority (t : Text) : Text :=
  match Text.dropLead? "//" t with
  | some rest => rest.takeWhile fun c => !(Text.ofString "/?#").contains c
  | none => []

/-- Code points that compatibility normalization turns into a delimiter of addresses. -/
def compatibilityDelimiters : List Nat :=
  [0x2047, 0x2048, 0x2049, 0x2100, 0x2101, 0x2105, 0x2106, 0x2A74, 0xFE13, 0xFE16, 0xFE55, 0xFE56,
    0xFE5F, 0xFE6B, 0xFF03, 0xFF0F, 0xFF1A, 0xFF1F, 0xFF20]

/-- An address of a later version of the protocol: its version in hexadecimal, a point, and
something. -/
def isLaterVersion (t : Text) : Bool :=
  match t with
  | _ :: rest =>
    let version := rest.takeWhile fun c => c.hexValue?.isSome
    !version.isEmpty &&
      (match rest.drop version.length with
        | c :: _ :: _ => c == ('.' : CodePoint)
        | _ => false)
  | [] => false

/-- What stands in brackets has to be an address of version 6 or later. -/
def checkBracketed (t : Text) : Except AddressFault Unit :=
  if t.head? = some ('v' : CodePoint) then
    if isLaterVersion t then .ok () else .error .unknownVersion
  else if IpLiteral.isV4 t then .error .bracketedV4
  else if IpLiteral.isV6 t then .ok ()
  else .error (.notAnAddress t)

/-- What stands after the last `@`. -/
def afterUser (auth : Text) : Text := ((Text.cutLast '@' auth).map Prod.snd).getD auth

/-- Brackets come in pairs.  Where an authority has them, its host has to be an address, and in
brackets nothing but a port may stand beside it. -/
def checkBrackets (auth : Text) : Except AddressFault Unit :=
  match auth.contains ('[' : CodePoint), auth.contains (']' : CodePoint) with
  | false, false => .ok ()
  | true, true =>
    let info := afterUser auth
    match Text.cutFirst '[' info with
    | some (before, bracketed) =>
      let (host, rest) := (Text.cutFirst ']' bracketed).getD (bracketed, [])
      let isPort := rest.isEmpty || rest.head? == some ':'
      if before.isEmpty && isPort then checkBracketed host else .error .unbalancedBrackets
    | none => checkBracketed (((Text.cutFirst ':' info).map Prod.fst).getD info)
  | _, _ => .error .unbalancedBrackets

/-- No code point may become a delimiter under normalization. -/
def checkCompatibility (auth : Text) : Except AddressFault Unit :=
  if auth.any fun c => compatibilityDelimiters.contains c.val then .error (.compatibility auth)
  else .ok ()

/-- Host and port as they are written, after the last `@`. -/
def hostAndPort (auth : Text) : Text × Text :=
  let info := afterUser auth
  match Text.cutFirst '[' info with
  | some (_, bracketed) =>
    let (host, rest) := (Text.cutFirst ']' bracketed).getD (bracketed, [])
    (host, ((Text.cutFirst ':' rest).map Prod.snd).getD [])
  | none => (Text.cutFirst ':' info).getD (info, [])

/-- The host in small letters; a zone after a percent sign keeps its case. -/
def readHost (t : Text) : Text :=
  match Text.cutFirst '%' t with
  | some (name, zone) => name.small ++ [CodePoint.ofChar '%'] ++ zone
  | none => t.small

/-- The port, if one is written. -/
def readPort (t : Text) : Except AddressFault (Option Nat) :=
  if t.isEmpty then .ok none
  else if !t.all CodePoint.isDigit then .error (.portUnreadable t)
  else if Text.maxDigits < t.length then .error (.portTooLong t.length)
  else if 65535 < Text.digitsValue t then .error .portOutOfRange
  else .ok (some (Text.digitsValue t))

/-- The port, or the usual one if none or zero is written. -/
def portOrDefault : Option Nat → Nat
  | some (n + 1) => n + 1
  | _ => defaultPort

/-- Reads the address of the engine. -/
def ofText (t : Text) : Except AddressFault Address :=
  let (scheme, rest) := splitScheme (cleaned t)
  let auth := authority rest
  match checkBrackets auth, checkCompatibility auth with
  | .error fault, _ => .error fault
  | .ok (), .error fault => .error fault
  | .ok (), .ok () =>
    let (host, portText) := hostAndPort auth
    match readPort portText with
    | .error fault => .error fault
    | .ok port =>
      if host.isEmpty then .error .noHost
      else
        match Host.check (readHost host) with
        | .error fault => .error (.badHost fault)
        | .ok () =>
          .ok ⟨if scheme.isEmpty then defaultScheme else scheme, readHost host, portOrDefault port⟩

/-- Reads the address of the engine from any value.  What is empty names no host, bytes name none
that the client takes, and nothing else is a URL. -/
def ofValue (v : Value) : Except Failure Address :=
  match v, v.text? with
  | _, some t => (ofText t).mapError AddressFault.toFailure
  | .bytes bs, none =>
    match ofText (bs.map fun b => .ofNat b.toNat) with
    | .error (.badHost _) | .ok _ =>
      .error (.ofFault .type "a bytes-like object is required, not 'str'")
    | .error fault => .error fault.toFailure
  | v, none => .error (if v.isFilled then v.lacking "decode" else AddressFault.noHost.toFailure)

/-- The URL under which the client connects; a host with a colon in it stands in brackets. -/
def toUrl (a : Address) : Text :=
  let host := if a.host.contains (':' : CodePoint) then "[" ++ a.host ++ "]" else a.host
  a.scheme ++ "://" ++ host ++ ":" ++ Text.ofNat a.port

end Address

end FacetSearch
