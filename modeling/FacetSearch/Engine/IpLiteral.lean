/-
# FacetSearch.Engine.IpLiteral — addresses written as numbers.

An IPv4 literal has four octets of one to three digits.  An IPv6 literal has eight groups of one to
four hexadecimal digits; one run of groups may be left out between two colons, the last two groups
may be an IPv4 literal, and a zone may follow after a percent sign.
-/
import FacetSearch.Text.Basic

namespace FacetSearch.IpLiteral

/-- An octet: digits without a leading zero that stay below 256. -/
def isOctet (t : Text) : Bool :=
  !t.isEmpty && t.all CodePoint.isDigit && t.length ≤ 3 &&
    (t.length == 1 || t.head? != some ('0' : CodePoint)) && Text.digitsValue t ≤ 255

/-- An IPv4 literal. -/
def isV4 (t : Text) : Bool :=
  let octets := Text.splitOn '.' t
  octets.length == 4 && octets.all isOctet

/-- A group of an IPv6 literal. -/
def isGroup (t : Text) : Bool :=
  !t.isEmpty && t.length ≤ 4 && t.all fun c => c.hexValue?.isSome

/-- The groups between the colons, two groups in place of an IPv4 literal at the end. -/
def groups? (t : Text) : Option (List Text) :=
  let groups := Text.splitOn ':' t
  if groups.length < 3 then none
  else
    match groups.getLast? with
    | some last =>
      if ('.' : CodePoint) ∈ last then
        if isV4 last then some (groups.dropLast ++ [Text.ofString "0", Text.ofString "0"]) else none
      else some groups
    | none => none

/-- The groups on one side of the gap: none at all, or only proper ones. -/
def sideLength? (groups : List Text) : Option Nat :=
  if groups = [[]] then some 0 else if groups.all isGroup then some groups.length else none

/-- Whether groups make up an address, given the places of the gaps inside them. -/
def areGroups (groups : List Text) : Bool :=
  let inner := (groups.drop 1).dropLast
  match inner.findIdx? (·.isEmpty) with
  | none => groups.length == 8 && groups.all isGroup
  | some gap =>
    groups.length ≤ 9 && (inner.drop (gap + 1)).all (!·.isEmpty) &&
      (match sideLength? (groups.take (gap + 1)), sideLength? (groups.drop (gap + 2)) with
        | some high, some low => high + low ≤ 7
        | _, _ => false)

/-- A zone: not empty, and without another percent sign. -/
def isZone (t : Text) : Bool := !t.isEmpty && !t.contains ('%' : CodePoint)

/-- An IPv6 literal. -/
def isV6 (t : Text) : Bool :=
  let (address, zoned) :=
    match Text.cutFirst '%' t with
    | some (address, zone) => (address, isZone zone)
    | none => (t, true)
  zoned && ((groups? address).map areGroups).getD false

end FacetSearch.IpLiteral
