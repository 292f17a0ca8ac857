/-
# FacetSearch.Proofs.EngineUrl — URLs of the engine by their parts.

A URL of the engine names a scheme, a host and a port; a user name may stand in front of the host,
and a path, a query and a fragment behind the port.  Main statement: scheme, host and port are read
from such a URL as they are, and whatever address is read from a text in ASCII, the URL under which
the client connects has the same address.
-/
import FacetSearch.Proofs.AddressForm

namespace FacetSearch

/-! ## The parts of a URL -/

/-- The host of an engine: a name in small letters, or an IPv6 literal. -/
inductive EngineHost where
  | name (text : Text) (filled : text ≠ []) (points : ∀ c ∈ text, Host.isNamePoint c = true)
  | literal (l : Ipv6)

namespace EngineHost

/-- The host itself. -/
def text : EngineHost → Text
  | name t _ _ => t
  | literal l => l.text

/-- The host as a URL has it: a literal stands in brackets. -/
def written : EngineHost → Text
  | name t _ _ => t
  | literal l => "[" ++ l.text ++ "]"

theorem settled (h : EngineHost) : Host.Settled h.text := by
  cases h with
  | name t filled points => exact Host.settled_of_name filled points
  | literal l => exact Host.settled_of_literal l

/-- Colons tell literals from names. -/
theorem written_eq (h : EngineHost) :
    h.written = if h.text.contains (':' : CodePoint) then "[" ++ h.text ++ "]" else h.text := by
  cases h with
  | name t filled points =>
      have hcolon : (':' : CodePoint) ∉ t := fun hmem => absurd (points _ hmem) (by decide)
      exact (if_neg (mt List.contains_iff_mem.mp hcolon)).symm
  | literal l =>
      have hcolon : (':' : CodePoint) ∈ l.text := IpLiteral.colon_mem_of_isV6 l.isV6_text
      exact (if_pos (List.contains_iff_mem.mpr hcolon)).symm

end EngineHost

/-- A run of printable ASCII. -/
structure Printable where
  text : Text
  points : ∀ c ∈ text, 0x20 ≤ c.val ∧ c.val < 0x7F

/-- A user name, perhaps with a password: printable ASCII without spaces and without the delimiters
of addresses. -/
structure UserInfo where
  text : Text
  points : ∀ c ∈ text, 0x20 < c.val ∧ c.val < 0x7F
  free : ∀ c ∈ text, c ∉ Host.brackets

/-- A URL of the engine. -/
structure EngineUrl where
  scheme : Text
  known : scheme = "http" ∨ scheme = "https"
  user : Option UserInfo
  host : EngineHost
  port : Nat
  port_pos : 0 < port
  port_le : port ≤ 65535
  path : Option Printable
  query : Option Printable
  fragment : Option Printable

namespace EngineUrl

variable (u : EngineUrl)

/-- The user name with the sign that ends it. -/
def userPart : Text :=
  match u.user with
  | some info => info.text ++ "@"
  | none => []

/-- A part behind the port, after the mark that begins it. -/
def part (mark : CodePoint) : Option Printable → Text
  | some run => mark :: run.text
  | none => []

/-- What stands behind the port. -/
def tail : Text := part '/' u.path ++ part '?' u.query ++ part '#' u.fragment

/-- The URL. -/
def text : Text :=
  u.scheme ++ "://" ++ u.userPart ++ u.host.written ++ ":" ++ Text.ofNat u.port ++ u.tail

/-- The address that the URL names. -/
def address : Address := ⟨u.scheme, u.host.text, u.port⟩

theorem settled_address : u.address.Settled where
  scheme := by
    rw [address]
    rcases u.known with h | h <;> rw [h]
    · exact Address.isScheme_of_all (by decide) (by decide) (by decide)
    · exact Address.isScheme_of_all (by decide) (by decide) (by decide)
  host := u.host.settled
  port_pos := u.port_pos
  port_le := u.port_le

theorem isUserPart : Address.IsUserPart u.userPart := by
  rw [userPart]
  cases u.user with
  | none => exact ⟨.inl rfl, by simp, by simp⟩
  | some info =>
      refine ⟨.inr ⟨info.text, rfl⟩, ?_, ?_⟩
      · refine List.forall_mem_append.mpr ⟨?_, List.forall_mem_singleton.mpr (by decide)⟩
        intro c hc
        have := info.points c hc
        omega
      · exact List.forall_mem_append.mpr ⟨info.free, List.forall_mem_singleton.mpr (by decide)⟩

/-- Every part is visible and begins with its mark. -/
theorem isTail_part_append {mark : CodePoint} (hmark : mark ∈ Text.ofString "/?#")
    (run : Option Printable) {rest : Text} (hrest : Address.IsTail rest) :
    Address.IsTail (part mark run ++ rest) := by
  cases run with
  | none => exact hrest
  | some run =>
      refine ⟨List.forall_mem_cons.mpr ⟨?_, List.forall_mem_append.mpr ⟨?_, hrest.visible⟩⟩, ?_⟩
      · have hvisible : ((Text.ofString "/?#").all fun c => 0x20 ≤ c.val) = true := by decide
        exact of_decide_eq_true (List.all_eq_true.mp hvisible mark hmark)
      · exact fun c hc => (run.points c hc).1
      · rintro c ⟨⟩
        simpa using hmark

theorem isTail_nil : Address.IsTail [] := ⟨by simp, fun c hc => by simp at hc⟩

theorem isTail : Address.IsTail u.tail := by
  rw [tail, List.append_assoc]
  refine isTail_part_append (by decide) _ (isTail_part_append (by decide) _ ?_)
  rw [← List.append_nil (part _ _)]
  exact isTail_part_append (by decide) _ isTail_nil

/-- A URL put together from its parts is one of its address. -/
theorem text_eq_urlWith : u.text = u.address.urlWith u.userPart u.tail := by
  rw [text, Address.urlWith, Address.location, EngineHost.written_eq]
  simp only [address, List.append_assoc]

end EngineUrl

/-- **A URL is read by its parts, and its address keeps.**  Scheme, host and port are read as they
stand in the URL, whatever user name, path, query and fragment stand beside them.  An address that
was read from any text in ASCII is read again from the URL under which the client connects, so what
was missing is filled in once.  Literals have no zone where they are put together from their groups;
the second half takes them with and without. -/
theorem engine_url_keeps_address :
    (∀ u : EngineUrl, Address.ofText u.text = .ok u.address) ∧
      ∀ (t : Text) (a : Address), t.isAscii = true → Address.ofText t = .ok a →
        Address.ofText a.toUrl = .ok a := by
  constructor
  · intro u
    rw [u.text_eq_urlWith]
    exact Address.ofText_urlWith u.settled_address u.isUserPart u.isTail
  · intro t a hascii h
    have hsettled : a.Settled := Address.settled_of_ofText hascii h
    rw [Address.toUrl_eq_urlWith]
    exact Address.ofText_urlWith hsettled ⟨.inl rfl, by simp, by simp⟩ EngineUrl.isTail_nil

/-- A group of one digit. -/
def oneGroup : Ipv6.Group := ⟨"1", by decide, by decide, List.forall_mem_singleton.mpr (by decide)⟩

/-- A URL in which marks stand where they end nothing. -/
def crowdedUrl : EngineUrl where
  scheme := "https"
  known := .inr rfl
  user := some ⟨"@", List.forall_mem_singleton.mpr (by decide),
    List.forall_mem_singleton.mpr (by decide)⟩
  host := .literal (.gapped [oneGroup] ⟨[oneGroup], some ⟨127, 0, 0, 1⟩⟩ (by decide))
  port := 443
  port_pos := by decide
  port_le := by decide
  path := some ⟨" ", List.forall_mem_singleton.mpr (by decide)⟩
  query := some ⟨"@", List.forall_mem_singleton.mpr (by decide)⟩
  fragment := some ⟨"[", List.forall_mem_singleton.mpr (by decide)⟩

/-- A text as it may be typed: a blank in front, capitals, a zone, and no port to connect to. -/
def typedUrl : Text := " HTTP://u:p@[FE80::1%Eth0]:0/x"

/-- The address in it. -/
def typedAddress : Address := ⟨"http", "fe80::1%Eth0", 9200⟩

theorem engine_url_keeps_address_crowded :
    (crowdedUrl.text = "https://@@[1::1:127.0.0.1]:443/ ?@#[" ∧
        Address.ofText crowdedUrl.text = .ok crowdedUrl.address) ∧
      (typedUrl.isAscii = true ∧ Address.ofText typedUrl = .ok typedAddress) ∧
        Address.ofText typedAddress.toUrl = .ok typedAddress := by
  have hascii : typedUrl.isAscii = true := by decide
  have hread : Address.ofText typedUrl = .ok typedAddress := rfl
  obtain ⟨hparts, hkept⟩ := engine_url_keeps_address
  exact ⟨⟨by decide, hparts crowdedUrl⟩, ⟨hascii, hread⟩, hkept typedUrl typedAddress hascii hread⟩

end FacetSearch
