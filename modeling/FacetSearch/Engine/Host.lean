/-
# FacetSearch.Engine.Host — hosts to which a client can connect.

A host is an IPv6 literal or a name.  It holds no blanks and no controls, not even in percent form;
a percent sign begins the percent form of a byte, and every label of a name has to be valid.
-/
import FacetSearch.Engine.HostLabel
import FacetSearch.Engine.IpLiteral
import FacetSearch.Text.Quoted

namespace FacetSearch

/-- What can be wrong with a host. -/
inductive HostFault where
  | badPoint (host : Text) (c : CodePoint)
  | badEscape (host escape : Text)
  | malformed (host : Text)
  | badLabel (label : Text)
  deriving DecidableEq, Repr

/-- The wording of a fault. -/
def HostFault.message : HostFault → Text
  | .badPoint host c =>
    "Host " ++ Quoted.ofText host ++ " contains invalid character " ++ Quoted.ofText [c]
  | .badEscape host escape =>
    "Host " ++ Quoted.ofText host ++ " contains invalid percent-encoded control character " ++
      Quoted.ofText escape
  | .malformed host => Quoted.ofText host ++ " is not a valid host"
  | .badLabel label => "Name '" ++ label ++ "' is not a valid IDNA label"

namespace Host

/-- ASCII controls and the space. -/
def isControlOrSpace (n : Nat) : Bool := n ≤ 0x20 || n == 0x7F

/-- The value of a percent form at the beginning of a text. -/
def escaped? : Text → Option Nat
  | c :: high :: low :: _ =>
    if c = ('%' : CodePoint) then
      high.hexValue?.bind fun h => low.hexValue?.map fun l => 16 * h + l
    else none
  | _ => none

/-- The first percent form of a control; that of the space is none. -/
def controlEscape? : Text → Option Text
  | [] => none
  | c :: rest =>
    match escaped? (c :: rest) with
    | some n =>
      if isControlOrSpace n && n ≠ 0x20 then some ((c :: rest).take 3) else controlEscape? rest
    | none => controlEscape? rest

/-- The delimiters of addresses that no name can hold. -/
def delimiters : Text := "[]:/?#"

/-- Whether a text is free of delimiters, each percent sign in it beginning a percent form. -/
def isNameText : Text → Bool
  | [] => true
  | c :: rest =>
    (if c = ('%' : CodePoint) then (escaped? (c :: rest)).isSome else !delimiters.contains c) &&
      isNameText rest

/-- The code points of a zone. -/
def isZonePoint (c : CodePoint) : Bool :=
  c.isLetter || c.isDigit || (Text.ofString "-._~").contains c

/-- An IPv6 literal, with a plain zone if it has one. -/
def isNumeric (host : Text) : Bool :=
  IpLiteral.isV6 host && (((Text.cutFirst '%' host).map Prod.snd).getD []).all isZonePoint

/-- Checks a host. -/
def check (host : Text) : Except HostFault Unit :=
  match host.find? fun c => isControlOrSpace c.val, controlEscape? host with
  | some c, _ => .error (.badPoint host c)
  | none, some escape => .error (.badEscape host escape)
  | none, none =>
    if isNumeric host then .ok ()
    else if !isNameText host then .error (.malformed host)
    else
      match (Text.splitOn '.' host).find? fun label => !HostLabel.isValid label with
      | some label => .error (.badLabel label)
      | none => .ok ()

end Host

end FacetSearch
