/-
# FacetSearch.Proofs.HostText — hosts as they stand in an address.

A host in an address is in small letters, up to a zone or the first percent form, and the client can
connect to it.  Such a host holds no delimiter of addresses but colons, and colons only if it is an
IPv6 literal, so it can be put into a URL again.  Plain names and IPv6 literals are such hosts, and
so is every host that was read from a URL in ASCII.
-/
import FacetSearch.Engine.Address
import FacetSearch.Proofs.LiteralForm

namespace FacetSearch

/-- What is of a kind that no mark is of is no mark. -/
theorem Text.not_mem_of_kind {marks : Text} {kind : CodePoint → Bool} {c : CodePoint}
    (hmarks : (marks.all fun c => !kind c) = true) (hc : kind c = true) : c ∉ marks := by
  intro hmem
  have hno := List.all_eq_true.mp hmarks c hmem
  rw [hc] at hno
  exact absurd hno (by decide)

/-! ## What an IPv6 literal is made of -/

namespace IpLiteral

variable {t : Text}

/-- What stands in front of the zone. -/
def address (t : Text) : Text := ((Text.cutFirst '%' t).map Prod.fst).getD t

/-- Hexadecimal digits of either case, points and colons. -/
def isAddressPoint (c : CodePoint) : Bool :=
  c.hexValue?.isSome || c == ('.' : CodePoint) || c == (':' : CodePoint)

theorem isDigit_of_isV4 (h : isV4 t = true) :
    ∀ c ∈ t, c = ('.' : CodePoint) ∨ c.isDigit = true := by
  intro c hc
  simp only [isV4, Bool.and_eq_true, List.all_eq_true] at h
  refine or_iff_not_imp_left.mpr fun hpoint => ?_
  obtain ⟨octet, hoctet, hmem⟩ := Text.exists_mem_splitOn_iff.mpr ⟨hc, hpoint⟩
  exact List.all_eq_true.mp (Ipv6.all_isDigit_of_isOctet (h.2 octet hoctet)) c hmem

theorem isAddressPoint_of_isV4 (h : isV4 t = true) : ∀ c ∈ t, isAddressPoint c = true := by
  intro c hc
  rcases isDigit_of_isV4 h c hc with rfl | hdigit
  · decide
  · simp [isAddressPoint, CodePoint.hexValue?, hdigit]

theorem isGroup_of_sideLength? {side : List Text} {n : Nat} (h : sideLength? side = some n) :
    ∀ g ∈ side, g = [] ∨ isGroup g = true := by
  intro g hg
  rw [sideLength?] at h
  split at h
  · next hempty => exact .inl (List.mem_singleton.mp (hempty ▸ hg))
  · split at h
    · next hall => exact .inr (List.all_eq_true.mp hall g hg)
    · exact absurd h (by simp)

/-- Every part of an address is empty or a group. -/
theorem isGroup_of_areGroups {groups : List Text} (h : areGroups groups = true) :
    ∀ g ∈ groups, g = [] ∨ isGroup g = true := by
  intro g hg
  rw [areGroups] at h
  cases hgap : ((groups.drop 1).dropLast).findIdx? (·.isEmpty) with
  | none =>
      simp only [hgap, Bool.and_eq_true, List.all_eq_true] at h
      exact .inr (h.2 g hg)
  | some gap =>
      obtain ⟨hin, hempty, -⟩ := List.findIdx?_eq_some_iff_getElem.mp hgap
      simp only [List.getElem_dropLast, List.getElem_drop, Nat.add_comm 1 gap,
        List.isEmpty_iff] at hempty
      have hbound : gap + 1 < groups.length := by
        simp only [List.length_dropLast, List.length_drop] at hin
        omega
      simp only [hgap, Bool.and_eq_true] at h
      cases hhigh : sideLength? (groups.take (gap + 1)) with
      | none => simp [hhigh] at h
      | some high =>
          cases hlow : sideLength? (groups.drop (gap + 2)) with
          | none => simp [hhigh, hlow] at h
          | some low =>
              -- a part is on the high side, in the gap, or on the low side
              rw [← List.take_append_drop (gap + 1) groups, List.drop_eq_getElem_cons hbound,
                List.mem_append, List.mem_cons] at hg
              rcases hg with hg | rfl | hg
              · exact isGroup_of_sideLength? hhigh g hg
              · exact .inl hempty
              · exact isGroup_of_sideLength? hlow g hg

theorem isAddressPoint_of_isGroup {g : Text} (h : isGroup g = true) :
    ∀ c ∈ g, isAddressPoint c = true := by
  intro c hc
  simp only [isGroup, Bool.and_eq_true, List.all_eq_true] at h
  simp [isAddressPoint, h.2 c hc]

theorem isAddressPoint_of_groups? {groups : List Text} (h : groups? t = some groups)
    (hgroups : areGroups groups = true) : ∀ c ∈ t, isAddressPoint c = true := by
  intro c hc
  by_cases hcolon : c = (':' : CodePoint)
  · rw [hcolon]
    decide
  obtain ⟨piece, hpiece, hmem⟩ := Text.exists_mem_splitOn_iff.mpr ⟨hc, hcolon⟩
  have hgroup : ∀ g ∈ groups, ∀ c ∈ g, isAddressPoint c = true := by
    intro g hg c hc
    rcases isGroup_of_areGroups hgroups g hg with rfl | hg
    · exact absurd hc List.not_mem_nil
    · exact isAddressPoint_of_isGroup hg c hc
  have hne := Text.splitOn_ne_nil ':' t
  rw [groups?, List.getLast?_eq_some_getLast hne] at h
  simp only at h
  split at h
  · exact absurd h (by simp)
  · split at h
    · split at h
      · next hv4 =>
          -- the last piece is an IPv4 literal, the others are groups
          obtain rfl := Option.some.inj h
          rw [← List.dropLast_concat_getLast hne, List.mem_append, List.mem_singleton] at hpiece
          rcases hpiece with hpiece | rfl
          · exact hgroup piece (List.mem_append_left _ hpiece) c hmem
          · exact isAddressPoint_of_isV4 hv4 c hmem
      · exact absurd h (by simp)
    · obtain rfl := Option.some.inj h
      exact hgroup piece hpiece c hmem

/-- An address has colons. -/
theorem colon_mem_of_groups? {groups : List Text} (h : groups? t = some groups) :
    (':' : CodePoint) ∈ t := by
  by_contra hcolon
  rw [groups?, Text.splitOn_of_not_mem hcolon] at h
  exact absurd h (by simp)

/-- An IPv6 literal is digits, points and colons up to its zone. -/
theorem address_of_isV6 (h : isV6 t = true) :
    (∀ c ∈ address t, isAddressPoint c = true) ∧ (':' : CodePoint) ∈ address t := by
  have hread : ((groups? (address t)).map areGroups).getD false = true := by
    rw [isV6] at h
    rw [address]
    cases hcut : Text.cutFirst '%' t <;> simp only [hcut, Bool.and_eq_true] at h <;> exact h.2
  cases hgroups : groups? (address t) with
  | none => simp [hgroups] at hread
  | some groups =>
      rw [hgroups] at hread
      exact ⟨isAddressPoint_of_groups? hgroups hread, colon_mem_of_groups? hgroups⟩

theorem exists_eq_address_append (t : Text) : ∃ rest, t = address t ++ rest := by
  rcases Text.cutFirst_cases '%' t with ⟨-, hcut⟩ | ⟨before, zone, ht, -, hcut⟩
  · exact ⟨[], by rw [address, hcut]; exact (List.append_nil t).symm⟩
  · exact ⟨_, by rw [address, hcut]; exact ht⟩

theorem colon_mem_of_isV6 (h : isV6 t = true) : (':' : CodePoint) ∈ t := by
  obtain ⟨rest, ht⟩ := exists_eq_address_append t
  rw [ht]
  exact List.mem_append_left rest (address_of_isV6 h).2

/-- An IPv6 literal begins with an address, not with a zone. -/
theorem exists_rest_of_isV6 (h : isV6 t = true) :
    ∃ c rest, t = c :: rest ∧ isAddressPoint c = true := by
  obtain ⟨hpoints, hcolon⟩ := address_of_isV6 h
  obtain ⟨rest, ht⟩ := exists_eq_address_append t
  obtain ⟨c, cs, hcs⟩ := List.exists_cons_of_ne_nil (List.ne_nil_of_mem hcolon)
  exact ⟨c, cs ++ rest, by rw [ht, hcs]; rfl, hpoints c (hcs ▸ List.mem_cons_self)⟩

/-- No literal is of both kinds: only an IPv6 literal has colons. -/
theorem isV4_eq_false (h : isV6 t = true) : isV4 t = false := by
  refine Bool.eq_false_iff.mpr fun hv4 => ?_
  rcases isDigit_of_isV4 hv4 _ (colon_mem_of_isV6 h) with hpoint | hdigit
  · exact absurd hpoint (by decide)
  · exact absurd hdigit (by decide)

end IpLiteral

/-! ## Small letters of ASCII -/

namespace CodePoint

variable {c d : CodePoint}

theorem toLower_of_not_capital (h : c.val < 0x41 ∨ 0x5A < c.val) : c.toLower = c := by
  rw [toLower, if_neg]
  simp only [Bool.and_eq_true, decide_eq_true_eq]
  omega

theorem val_toLower_of_capital (h : 0x41 ≤ c.val ∧ c.val ≤ 0x5A) :
    c.toLower.val = c.val + 0x20 := by
  rw [toLower, if_pos (by simpa using h)]
  simp only [ofNat, Fin.val_ofNat]
  omega

/-- A capital is moved to its small letter, anything else stays. -/
theorem toLower_cases (c : CodePoint) :
    ((c.val < 0x41 ∨ 0x5A < c.val) ∧ c.toLower = c) ∨
      ((0x41 ≤ c.val ∧ c.val ≤ 0x5A) ∧ c.toLower.val = c.val + 0x20) := by
  by_cases h : c.val < 0x41 ∨ 0x5A < c.val
  · exact .inl ⟨h, toLower_of_not_capital h⟩
  · have hcapital : 0x41 ≤ c.val ∧ c.val ≤ 0x5A := by omega
    exact .inr ⟨hcapital, val_toLower_of_capital hcapital⟩

theorem toLower_lt (h : c.val < 0x80) : c.toLower.val < 0x80 := by
  rcases toLower_cases c with ⟨-, hsame⟩ | ⟨hcapital, hval⟩
  · rwa [hsame]
  · omega

/-- What is no small letter is the small form of nothing but itself. -/
theorem eq_of_toLower_eq (hd : d.val < 0x61 ∨ 0x7A < d.val) (h : c.toLower = d) : c = d := by
  rcases toLower_cases c with ⟨-, hsame⟩ | ⟨hcapital, hval⟩
  · rwa [hsame] at h
  · rw [h] at hval
    omega

theorem toLower_toLower (c : CodePoint) : c.toLower.toLower = c.toLower := by
  rcases toLower_cases c with ⟨-, hsame⟩ | ⟨hcapital, hval⟩
  · rw [hsame, hsame]
  · exact toLower_of_not_capital (by omega)

theorem isLetter_toLower (h : c.isLetter = true) : c.toLower.isLetter = true := by
  rcases toLower_cases c with ⟨-, hsame⟩ | ⟨hcapital, hval⟩
  · rwa [hsame]
  · simp only [isLetter, hval, Bool.or_eq_true, Bool.and_eq_true, decide_eq_true_eq]
    omega

end CodePoint

namespace Text

theorem lower_lower (t : Text) : t.lower.lower = t.lower := by
  rw [lower, lower, List.map_map]
  exact List.map_congr_left fun c _ => c.toLower_toLower

theorem small_eq_lower {t : Text} (h : t.isAscii = true) : t.small = t.lower := by
  have hafter : ∀ before, smallAfter before t = t.lower := by
    induction t with
    | nil => exact fun _ => rfl
    | cons c t ih =>
        intro before
        simp only [isAscii, List.all_cons, Bool.and_eq_true, decide_eq_true_eq] at h
        have hsigma : (c == capitalSigma) = false := by
          refine beq_eq_false_iff_ne.mpr ?_
          rintro rfl
          exact absurd h.1 (by decide)
        rw [smallAfter, hsigma, ih h.2, CodePoint.small, if_pos h.1]
        rfl
  exact hafter []

end Text

/-! ## Hosts in small letters -/

namespace Address

variable {t : Text}

theorem readHost_of_not_mem (h : t.isAscii = true) (hfree : CodePoint.ofChar '%' ∉ t) :
    readHost t = t.lower := by
  rw [readHost, Text.cutFirst_of_not_mem hfree]
  exact Text.small_eq_lower h

theorem readHost_append {name : Text} (h : name.isAscii = true)
    (hfree : CodePoint.ofChar '%' ∉ name) (zone : Text) :
    readHost (name ++ CodePoint.ofChar '%' :: zone) =
      name.lower ++ CodePoint.ofChar '%' :: zone := by
  rw [readHost, Text.cutFirst_append hfree]
  simp only [Text.small_eq_lower h, List.append_assoc]
  rfl

/-- A host in ASCII is made small up to the first percent sign. -/
theorem readHost_cases (h : t.isAscii = true) :
    (CodePoint.ofChar '%' ∉ t ∧ readHost t = t.lower) ∨
      ∃ name zone : Text, t = name ++ CodePoint.ofChar '%' :: zone ∧ CodePoint.ofChar '%' ∉ name ∧
        name.isAscii = true ∧ readHost t = name.lower ++ CodePoint.ofChar '%' :: zone := by
  rcases Text.cutFirst_cases '%' t with ⟨hfree, -⟩ | ⟨name, zone, rfl, hfree, -⟩
  · exact .inl ⟨hfree, readHost_of_not_mem h hfree⟩
  · have hname : name.isAscii = true := by
      rw [Text.isAscii, List.all_append, Bool.and_eq_true] at h
      exact h.1
    exact .inr ⟨name, zone, rfl, hfree, hname, readHost_append hname hfree zone⟩

/-- Every code point of a host in small letters is one of the host or the small form of one. -/
theorem exists_of_mem_readHost (h : t.isAscii = true) {c : CodePoint} (hc : c ∈ readHost t) :
    ∃ d ∈ t, c = d ∨ c = d.toLower := by
  rcases readHost_cases h with ⟨-, hread⟩ | ⟨name, zone, rfl, -, -, hread⟩
  · rw [hread] at hc
    obtain ⟨d, hd, rfl⟩ := List.mem_map.mp hc
    exact ⟨d, hd, .inr rfl⟩
  · rw [hread, List.mem_append] at hc
    rcases hc with hc | hc
    · obtain ⟨d, hd, rfl⟩ := List.mem_map.mp hc
      exact ⟨d, List.mem_append_left _ hd, .inr rfl⟩
    · exact ⟨c, List.mem_append_right _ hc, .inl rfl⟩

theorem isAscii_readHost (h : t.isAscii = true) : (readHost t).isAscii = true := by
  refine List.all_eq_true.mpr fun c hc => ?_
  obtain ⟨d, hd, hcd⟩ := exists_of_mem_readHost h hc
  have hascii : d.val < 0x80 := of_decide_eq_true (List.all_eq_true.mp h d hd)
  rcases hcd with rfl | rfl
  · exact decide_eq_true hascii
  · exact decide_eq_true (CodePoint.toLower_lt hascii)

theorem readHost_ne_nil (h : t.isAscii = true) (hne : t ≠ []) : readHost t ≠ [] := by
  rcases readHost_cases h with ⟨-, hread⟩ | ⟨name, zone, rfl, -, -, hread⟩
  · rw [hread]
    exact fun hnil => hne (List.map_eq_nil_iff.mp hnil)
  · rw [hread]
    exact List.append_ne_nil_of_right_ne_nil _ (List.cons_ne_nil _ _)

theorem percent_not_mem_lower (h : CodePoint.ofChar '%' ∉ t) : CodePoint.ofChar '%' ∉ t.lower := by
  intro hmem
  obtain ⟨d, hd, hlower⟩ := List.mem_map.mp hmem
  exact h (CodePoint.eq_of_toLower_eq (by decide) hlower ▸ hd)

theorem isAscii_lower (h : t.isAscii = true) : t.lower.isAscii = true := by
  refine List.all_eq_true.mpr fun c hc => ?_
  obtain ⟨d, hd, rfl⟩ := List.mem_map.mp hc
  exact decide_eq_true (CodePoint.toLower_lt (of_decide_eq_true (List.all_eq_true.mp h d hd)))

/-- Making a host small a second time changes nothing. -/
theorem readHost_readHost (h : t.isAscii = true) : readHost (readHost t) = readHost t := by
  rcases readHost_cases h with ⟨hfree, hread⟩ | ⟨name, zone, rfl, hfree, hname, hread⟩
  · rw [hread, readHost_of_not_mem (isAscii_lower h) (percent_not_mem_lower hfree),
      Text.lower_lower]
  · rw [hread, readHost_append (isAscii_lower hname) (percent_not_mem_lower hfree),
      Text.lower_lower]

end Address

/-! ## Hosts to which a client can connect -/

namespace Host

variable {host : Text}

/-- **Which hosts in ASCII a client takes.**  The labels of a name in ASCII are all taken. -/
theorem check_eq_ok_iff (hascii : host.isAscii = true) :
    check host = .ok () ↔
      (∀ c ∈ host, isControlOrSpace c.val = false) ∧ controlEscape? host = none ∧
        (isNumeric host = true ∨ isNameText host = true) := by
  have hlabels : (Text.splitOn '.' host).find? (fun label => !HostLabel.isValid label) = none := by
    refine List.find?_eq_none.mpr fun label hlabel => ?_
    have hlabel : label.isAscii = true := by
      refine List.all_eq_true.mpr fun c hc => List.all_eq_true.mp hascii c ?_
      exact (Text.exists_mem_splitOn_iff.mp ⟨label, hlabel, hc⟩).1
    simp [HostLabel.isValid, hlabel]
  have hpoints : (host.find? fun c => isControlOrSpace c.val) = none ↔
      ∀ c ∈ host, isControlOrSpace c.val = false := by
    simp only [List.find?_eq_none, Bool.not_eq_true]
  rw [check, hlabels, ← hpoints]
  cases host.find? fun c => isControlOrSpace c.val with
  | some c => simp
  | none =>
      cases controlEscape? host with
      | some escape => simp
      | none => cases isNumeric host <;> cases isNameText host <;> simp

/-- The code points of a literal with its zone: those of addresses, the percent sign, and those of
zones. -/
def isNumericPoint (c : CodePoint) : Bool :=
  IpLiteral.isAddressPoint c || c == ('%' : CodePoint) || isZonePoint c

theorem isNumericPoint_of_mem (h : isNumeric host = true) :
    ∀ c ∈ host, isNumericPoint c = true := by
  rw [isNumeric, Bool.and_eq_true] at h
  obtain ⟨hv6, hzone⟩ := h
  have haddress := (IpLiteral.address_of_isV6 hv6).1
  intro c hc
  rcases Text.cutFirst_cases '%' host with ⟨-, hcut⟩ | ⟨address, zone, rfl, -, hcut⟩
  · rw [IpLiteral.address, hcut] at haddress
    simp [isNumericPoint, haddress c hc]
  · rw [IpLiteral.address, hcut] at haddress
    rw [hcut] at hzone
    rcases List.mem_append.mp hc with hc | hc
    · simp [isNumericPoint, haddress c hc]
    · rcases List.mem_cons.mp hc with rfl | hc
      · simp [isNumericPoint]
      · simp [isNumericPoint, List.all_eq_true.mp hzone c hc]

theorem not_delimiter_of_isNameText (h : isNameText host = true) : ∀ c ∈ host, c ∉ delimiters := by
  induction host with
  | nil => exact fun c hc => absurd hc List.not_mem_nil
  | cons d host ih =>
      rw [isNameText, Bool.and_eq_true] at h
      refine List.forall_mem_cons.mpr ⟨?_, ih h.2⟩
      by_cases hd : d = CodePoint.ofChar '%'
      · rw [hd]
        decide
      · have hfree := h.1
        rw [if_neg hd] at hfree
        simpa using hfree

/-- A host as it stands in an address: the client can connect to it, nothing in it is still to be
made small, and no user name stands in it. -/
structure Settled (host : Text) : Prop where
  filled : host ≠ []
  ascii : host.isAscii = true
  checked : check host = .ok ()
  small : Address.readHost host = host
  userless : ('@' : CodePoint) ∉ host

/-- The delimiters of addresses but the colon. -/
def brackets : Text := "[]/?#"

namespace Settled

theorem visible (h : Settled host) : ∀ c ∈ host, 0x20 ≤ c.val := by
  intro c hc
  have hcontrol := ((check_eq_ok_iff h.ascii).mp h.checked).1 c hc
  simp only [isControlOrSpace, Bool.or_eq_false_iff, decide_eq_false_iff_not] at hcontrol
  omega

theorem not_bracket (h : Settled host) : ∀ c ∈ host, c ∉ brackets := by
  intro c hc hbracket
  rcases ((check_eq_ok_iff h.ascii).mp h.checked).2.2 with hnumeric | hname
  · exact Text.not_mem_of_kind (by decide) (isNumericPoint_of_mem hnumeric c hc) hbracket
  · have hsub : (brackets.all delimiters.contains) = true := by decide
    exact not_delimiter_of_isNameText hname c hc
      (List.contains_iff_mem.mp (List.all_eq_true.mp hsub c hbracket))

/-- A host with a colon in it is an IPv6 literal. -/
theorem isV6 (h : Settled host) (hcolon : (':' : CodePoint) ∈ host) :
    IpLiteral.isV6 host = true := by
  rcases ((check_eq_ok_iff h.ascii).mp h.checked).2.2 with hnumeric | hname
  · rw [isNumeric, Bool.and_eq_true] at hnumeric
    exact hnumeric.1
  · exact absurd (by decide) (not_delimiter_of_isNameText hname _ hcolon)

end Settled

/-! ### Where such hosts come from -/

theorem escaped?_of_ne {c : CodePoint} (h : c ≠ ('%' : CodePoint)) (rest : Text) :
    escaped? (c :: rest) = none := by
  rcases rest with _ | ⟨high, _ | ⟨low, rest⟩⟩
  · rfl
  · rfl
  · exact if_neg h

theorem controlEscape?_of_not_mem (h : ('%' : CodePoint) ∉ host) : controlEscape? host = none := by
  induction host with
  | nil => rfl
  | cons c host ih =>
      rw [List.mem_cons, not_or] at h
      rw [controlEscape?, escaped?_of_ne (Ne.symm h.1)]
      exact ih h.2

theorem isNameText_of_not_delimiter (hfree : ('%' : CodePoint) ∉ host)
    (h : ∀ c ∈ host, c ∉ delimiters) : isNameText host = true := by
  induction host with
  | nil => rfl
  | cons c host ih =>
      rw [List.mem_cons, not_or] at hfree
      obtain ⟨hc, hhost⟩ := List.forall_mem_cons.mp h
      have hcontains : delimiters.contains c = false := by simpa using hc
      rw [isNameText, if_neg (Ne.symm hfree.1), hcontains, ih hfree.2 hhost]
      rfl

/-- The code points of names in small letters. -/
def isNamePoint (c : CodePoint) : Bool :=
  (0x61 ≤ c.val && c.val ≤ 0x7A) || c.isDigit || (Text.ofString ".-_").contains c

/-- What stands for itself in a host: visible ASCII but capitals, the percent sign and `@`. -/
structure IsPlain (c : CodePoint) : Prop where
  visible : 0x20 < c.val
  ascii : c.val < 0x7F
  no_capital : c.val < 0x41 ∨ 0x5A < c.val
  no_percent : c.val ≠ 0x25
  no_at : c.val ≠ 0x40

theorem isPlain_of_isNamePoint {c : CodePoint} (h : isNamePoint c = true) : IsPlain c := by
  simp only [isNamePoint, CodePoint.isDigit, Bool.or_eq_true, Bool.and_eq_true, decide_eq_true_eq,
    List.contains_iff_mem] at h
  rcases h with (hletter | hdigit) | hmark
  · constructor <;> omega
  · constructor <;> omega
  · have hmarks : c.val ∈ [0x2E, 0x2D, 0x5F] := List.mem_map_of_mem (f := Fin.val) hmark
    simp only [List.mem_cons, List.not_mem_nil, or_false] at hmarks
    constructor <;> omega

/-- A literal or a name of such code points and colons is a host as it stands in an address. -/
theorem settled_of_points (filled : host ≠ [])
    (points : ∀ c ∈ host, isNamePoint c = true ∨ c = (':' : CodePoint))
    (kind : isNumeric host = true ∨ ∀ c ∈ host, c ∉ delimiters) : Settled host := by
  have hplain : ∀ c ∈ host, IsPlain c := by
    intro c hc
    rcases points c hc with hname | rfl
    · exact isPlain_of_isNamePoint hname
    · constructor <;> decide
  have hascii : host.isAscii = true :=
    List.all_eq_true.mpr fun c hc => decide_eq_true ((hplain c hc).ascii.trans (by decide))
  have hfree : ('%' : CodePoint) ∉ host := fun hmem => (hplain _ hmem).no_percent rfl
  have hvisible : ∀ c ∈ host, isControlOrSpace c.val = false := by
    intro c hc
    have hlow := (hplain c hc).visible
    have hhigh := (hplain c hc).ascii
    simp only [isControlOrSpace, Bool.or_eq_false_iff, decide_eq_false_iff_not,
      beq_eq_false_iff_ne]
    omega
  have hlower : host.lower = host :=
    (List.map_congr_left fun c hc =>
      CodePoint.toLower_of_not_capital (hplain c hc).no_capital).trans (List.map_id' host)
  exact {
    filled := filled
    ascii := hascii
    checked := (check_eq_ok_iff hascii).mpr ⟨hvisible, controlEscape?_of_not_mem hfree,
      kind.imp_right (isNameText_of_not_delimiter hfree)⟩
    small := (Address.readHost_of_not_mem hascii hfree).trans hlower
    userless := fun hmem => (hplain _ hmem).no_at rfl }

theorem settled_of_name (filled : host ≠ []) (points : ∀ c ∈ host, isNamePoint c = true) :
    Settled host := by
  refine settled_of_points filled (fun c hc => .inl (points c hc)) (.inr fun c hc => ?_)
  exact Text.not_mem_of_kind (by decide) (points c hc)

theorem settled_of_literal (l : Ipv6) : Settled l.text := by
  have hnumeric : isNumeric l.text = true := by
    rw [isNumeric, l.isV6_text, Text.cutFirst_of_not_mem l.percent_not_mem_text]
    rfl
  have hpoints : ∀ c ∈ l.text, isNamePoint c = true ∨ c = (':' : CodePoint) := by
    intro c hc
    have hpoint := l.isPoint_of_mem c hc
    simp only [Ipv6.isPoint, Ipv6.isPiecePoint, Bool.or_eq_true, Bool.and_eq_true,
      decide_eq_true_eq, beq_iff_eq] at hpoint
    refine hpoint.imp_left fun hpiece => ?_
    rcases hpiece with (hdigit | hletter) | rfl
    · simp [isNamePoint, hdigit]
    · have hsmall : c.val ≤ 0x7A := by omega
      simp [isNamePoint, hletter.1, hsmall]
    · decide
  exact settled_of_points (List.ne_nil_of_mem (IpLiteral.colon_mem_of_isV6 l.isV6_text)) hpoints
    (.inl hnumeric)

/-- **A host that a client takes, in small letters, stays as it is.** -/
theorem settled_readHost (filled : host ≠ []) (ascii : host.isAscii = true)
    (checked : check (Address.readHost host) = .ok ()) (userless : ('@' : CodePoint) ∉ host) :
    Settled (Address.readHost host) where
  filled := Address.readHost_ne_nil ascii filled
  ascii := Address.isAscii_readHost ascii
  checked := checked
  small := Address.readHost_readHost ascii
  userless := by
    intro hmem
    obtain ⟨d, hd, hcd⟩ := Address.exists_of_mem_readHost ascii hmem
    rcases hcd with hsame | hlower
    · exact userless (hsame ▸ hd)
    · exact userless (CodePoint.eq_of_toLower_eq (by decide) hlower.symm ▸ hd)

end Host

end FacetSearch
