/-
# FacetSearch.Proofs.AddressForm — addresses and the URLs that name them.

An address is settled when its scheme and host are in small letters, the client can connect to its
host and its port is one that can be connected to.  The reader gives nothing else.  And it gives a
settled address back from every URL of it, whatever user name stands in front of the host and
whatever path, query and fragment stand behind the port.
-/
import FacetSearch.Proofs.HostText

namespace FacetSearch.Address

variable {t auth user tail : Text} {a : Address}

/-- A scheme in small letters: a letter, then letters, digits and some marks. -/
structure IsScheme (scheme : Text) : Prop where
  letter : ∃ c rest, scheme = c :: rest ∧ c.isLetter = true
  points : ∀ c ∈ scheme, isSchemePoint c = true
  small : scheme.lower = scheme

theorem isScheme_of_all {c : CodePoint} {rest : Text} (hletter : c.isLetter = true)
    (hpoints : (c :: rest).all isSchemePoint = true) (hsmall : Text.lower (c :: rest) = c :: rest) :
    IsScheme (c :: rest) :=
  ⟨⟨c, rest, rfl, hletter⟩, List.all_eq_true.mp hpoints, hsmall⟩

theorem isScheme_defaultScheme : IsScheme defaultScheme :=
  isScheme_of_all (by decide) (by decide) (by decide)

theorem IsScheme.ne_nil {scheme : Text} (h : IsScheme scheme) : scheme ≠ [] := by
  obtain ⟨c, rest, rfl, -⟩ := h.letter
  exact List.cons_ne_nil c rest

/-- The scheme that is filled in for none is one. -/
theorem isScheme_filledIn {scheme : Text} (h : scheme = [] ∨ IsScheme scheme) :
    IsScheme (if scheme.isEmpty then defaultScheme else scheme) := by
  rcases h with rfl | h
  · exact isScheme_defaultScheme
  · rwa [if_neg (by simpa using h.ne_nil)]

/-- An address in which nothing has to be filled in and nothing to be made small. -/
structure Settled (a : Address) : Prop where
  scheme : IsScheme a.scheme
  host : Host.Settled a.host
  port_pos : 0 < a.port
  port_le : a.port ≤ 65535

/-! ## When an address is read -/

/-- **What the reader takes,** by the parts it cuts a URL into. -/
theorem ofText_eq_ok_iff {scheme rest host port : Text}
    (hsplit : splitScheme (cleaned t) = (scheme, rest))
    (hlocation : hostAndPort (authority rest) = (host, port)) :
    ofText t = .ok a ↔
      checkBrackets (authority rest) = .ok () ∧ checkCompatibility (authority rest) = .ok () ∧
        host ≠ [] ∧ Host.check (readHost host) = .ok () ∧
        ∃ n, readPort port = .ok n ∧
          a = ⟨if scheme.isEmpty then defaultScheme else scheme, readHost host,
            portOrDefault n⟩ := by
  rw [ofText, hsplit]
  simp only [hlocation]
  cases checkBrackets (authority rest) with
  | error fault => simp
  | ok =>
      cases checkCompatibility (authority rest) with
      | error fault => simp
      | ok =>
          cases readPort port with
          | error fault => simp
          | ok n =>
              cases host with
              | nil => simp
              | cons c host =>
                  cases Host.check (readHost (c :: host)) with
                  | error fault => simp
                  | ok =>
                      simp only [List.isEmpty_cons, Bool.false_eq_true, if_false, Except.ok.injEq,
                        ne_eq, reduceCtorEq, not_false_eq_true, true_and]
                      exact ⟨fun h => ⟨n, rfl, h.symm⟩, fun ⟨_, hn, ha⟩ => hn ▸ ha.symm⟩

/-! ## What is read is settled -/

theorem cleaned_subset (t : Text) : cleaned t ⊆ t := fun _ hc =>
  (List.dropWhile_sublist _).subset (List.mem_filter.mp hc).1

theorem isSchemePoint_toLower {c : CodePoint} (h : isSchemePoint c = true) :
    isSchemePoint c.toLower = true := by
  rcases CodePoint.toLower_cases c with ⟨-, hsame⟩ | ⟨hcapital, -⟩
  · rwa [hsame]
  · have hletter : c.isLetter = true := by simp [CodePoint.isLetter, hcapital]
    simp [isSchemePoint, CodePoint.isLetter_toLower hletter]

/-- The scheme of a text is none, or one in small letters. -/
theorem isScheme_splitScheme (t : Text) :
    (splitScheme t).1 = [] ∨ IsScheme (splitScheme t).1 := by
  rw [splitScheme]
  split
  · next c rest after hcut =>
      split
      · next hscheme =>
          rw [Bool.and_eq_true, List.all_eq_true] at hscheme
          refine .inr ⟨⟨_, _, rfl, CodePoint.isLetter_toLower hscheme.1⟩, ?_, Text.lower_lower _⟩
          intro d hd
          obtain ⟨c', hc', rfl⟩ := List.mem_map.mp hd
          refine isSchemePoint_toLower ?_
          rcases List.mem_cons.mp hc' with rfl | hc'
          · simp [isSchemePoint, hscheme.1]
          · exact hscheme.2 c' hc'
      · exact .inl rfl
  · exact .inl rfl

theorem splitScheme_subset (t : Text) : (splitScheme t).2 ⊆ t := by
  rcases Text.cutFirst_cases ':' t with ⟨-, hcut⟩ | ⟨before, after, rfl, -, hcut⟩
  · rw [splitScheme, hcut]
    exact List.Subset.refl t
  · rw [splitScheme, hcut]
    cases before with
    | nil => exact List.Subset.refl _
    | cons c rest =>
        simp only
        split
        · exact Text.after_subset _ _ _
        · exact List.Subset.refl _

theorem authority_subset (t : Text) : authority t ⊆ t := by
  cases hdrop : Text.dropLead? "//" t with
  | none =>
      rw [authority, hdrop]
      exact List.nil_subset t
  | some rest =>
      obtain rfl := Text.dropLead?_eq_some_iff.mp hdrop
      rw [authority, hdrop]
      exact List.Subset.trans (List.takeWhile_subset _) (List.subset_append_right _ _)

theorem afterUser_subset (auth : Text) : afterUser auth ⊆ auth := by
  rcases Text.cutLast_cases '@' auth with ⟨-, hcut⟩ | ⟨user, info, rfl, -, hcut⟩
  · rw [afterUser, hcut]
    exact List.Subset.refl auth
  · rw [afterUser, hcut]
    exact Text.after_subset _ _ _

/-- What stands after the last `@` has none. -/
theorem userless_afterUser (auth : Text) : ('@' : CodePoint) ∉ afterUser auth := by
  rcases Text.cutLast_cases '@' auth with ⟨hfree, hcut⟩ | ⟨user, info, rfl, hfree, hcut⟩
  · rw [afterUser, hcut]
    exact hfree
  · rw [afterUser, hcut]
    exact hfree

theorem hostAndPort_subset (auth : Text) : (hostAndPort auth).1 ⊆ afterUser auth := by
  rw [hostAndPort]
  rcases Text.cutFirst_cases '[' (afterUser auth) with ⟨-, hcut⟩ | ⟨before, rest, hinfo, -, hcut⟩
  · simp only [hcut]
    exact Text.fst_cutFirst_subset ':' _
  · simp only [hcut]
    rw [hinfo]
    calc
      _ ⊆ rest := Text.fst_cutFirst_subset ']' rest
      _ ⊆ before ++ CodePoint.ofChar '[' :: rest := Text.after_subset _ _ _

theorem le_of_readPort {port : Text} {n : Nat} (h : readPort port = .ok (some n)) :
    n ≤ 65535 := by
  rw [readPort] at h
  split at h
  · exact absurd h (by simp)
  · split at h
    · exact absurd h (by simp)
    · split at h
      · exact absurd h (by simp)
      · split at h
        · exact absurd h (by simp)
        · next hrange =>
            obtain rfl := Option.some.inj (Except.ok.inj h)
            omega

/-- The port of an address is one that can be connected to. -/
theorem portOrDefault_bounds {port : Text} {n : Option Nat} (h : readPort port = .ok n) :
    0 < portOrDefault n ∧ portOrDefault n ≤ 65535 := by
  match n with
  | none => decide
  | some 0 => decide
  | some (n + 1) => exact ⟨Nat.succ_pos n, le_of_readPort h⟩

/-- **What is read from a URL in ASCII is settled.** -/
theorem settled_of_ofText (hascii : t.isAscii = true) (h : ofText t = .ok a) : a.Settled := by
  obtain ⟨scheme, rest, hsplit⟩ : ∃ scheme rest, splitScheme (cleaned t) = (scheme, rest) :=
    ⟨_, _, rfl⟩
  obtain ⟨host, port, hlocation⟩ : ∃ host port, hostAndPort (authority rest) = (host, port) :=
    ⟨_, _, rfl⟩
  obtain ⟨-, -, hfilled, hchecked, n, hport, rfl⟩ := (ofText_eq_ok_iff hsplit hlocation).mp h
  have hhost : host ⊆ afterUser (authority rest) := by
    simpa only [hlocation] using hostAndPort_subset (authority rest)
  have hrest : rest ⊆ cleaned t := by
    simpa only [hsplit] using splitScheme_subset (cleaned t)
  -- every cut keeps code points of the text only, so the host is in ASCII as the text is
  have hsubset : host ⊆ t := by
    calc
      host ⊆ afterUser (authority rest) := hhost
      _ ⊆ authority rest := afterUser_subset _
      _ ⊆ rest := authority_subset _
      _ ⊆ cleaned t := hrest
      _ ⊆ t := cleaned_subset t
  have hhostAscii : host.isAscii = true :=
    List.all_eq_true.mpr fun c hc => List.all_eq_true.mp hascii c (hsubset hc)
  have hscheme : scheme = [] ∨ IsScheme scheme := by
    simpa only [hsplit] using isScheme_splitScheme (cleaned t)
  exact {
    scheme := isScheme_filledIn hscheme
    host := Host.settled_readHost hfilled hhostAscii hchecked fun hmem =>
      userless_afterUser _ (hhost hmem)
    port_pos := (portOrDefault_bounds hport).1
    port_le := (portOrDefault_bounds hport).2 }

/-! ## A settled address is read from its URLs -/

/-- A user name with the sign that ends it, or nothing at all, without brackets in it. -/
structure IsUserPart (user : Text) : Prop where
  ends : user = [] ∨ ∃ info, user = info ++ [CodePoint.ofChar '@']
  printable : ∀ c ∈ user, 0x20 ≤ c.val ∧ c.val < 0x80
  not_bracket : ∀ c ∈ user, c ∉ Host.brackets

/-- What may stand behind a port. -/
structure IsTail (tail : Text) : Prop where
  visible : ∀ c ∈ tail, 0x20 ≤ c.val
  ends : Text.Ends (fun c => !(Text.ofString "/?#").contains c) tail

/-- Host and port as a URL has them. -/
def location (a : Address) : Text :=
  (if a.host.contains (':' : CodePoint) then "[" ++ a.host ++ "]" else a.host) ++ ":" ++
    Text.ofNat a.port

/-- The URL of an address with what its reader passes over. -/
def urlWith (a : Address) (user tail : Text) : Text :=
  a.scheme ++ "://" ++ user ++ a.location ++ tail

theorem toUrl_eq_urlWith (a : Address) : a.toUrl = a.urlWith [] [] := by
  simp only [toUrl, urlWith, location, List.append_assoc, List.append_nil]

theorem IsScheme.visible {scheme : Text} (h : IsScheme scheme) : ∀ c ∈ scheme, 0x20 < c.val := by
  intro c hc
  have hpoint := h.points c hc
  simp only [isSchemePoint, CodePoint.isLetter, CodePoint.isDigit, Bool.or_eq_true,
    Bool.and_eq_true, decide_eq_true_eq, List.contains_iff_mem] at hpoint
  rcases hpoint with (hletter | hdigit) | hmark
  · omega
  · omega
  · have hmarks : ((Text.ofString "+-.").all fun c => 0x20 < c.val) = true := by decide
    simpa using List.all_eq_true.mp hmarks c hmark

/-- In front of a scheme and in a visible text there is nothing to clean. -/
theorem cleaned_append {scheme rest : Text} (h : IsScheme scheme)
    (hrest : ∀ c ∈ rest, 0x20 ≤ c.val) : cleaned (scheme ++ rest) = scheme ++ rest := by
  have hkept : (scheme ++ rest).dropWhile (·.val ≤ 0x20) = scheme ++ rest := by
    obtain ⟨c, cs, rfl, -⟩ := h.letter
    have hc := h.visible c List.mem_cons_self
    exact List.dropWhile_cons_of_neg (by simpa using hc)
  rw [cleaned, hkept, List.filter_eq_self]
  intro c hc
  have hvisible : 0x20 ≤ c.val :=
    (List.mem_append.mp hc).elim (fun hscheme => (h.visible c hscheme).le) (hrest c)
  simp only [Bool.and_eq_true, decide_eq_true_eq]
  omega

theorem splitScheme_append {scheme : Text} (h : IsScheme scheme) (rest : Text) :
    splitScheme (scheme ++ CodePoint.ofChar ':' :: rest) = (scheme, rest) := by
  have hfree : CodePoint.ofChar ':' ∉ scheme := fun hmem => absurd (h.points _ hmem) (by decide)
  obtain ⟨c, cs, rfl, hletter⟩ := h.letter
  have hpoints : cs.all isSchemePoint = true :=
    List.all_eq_true.mpr fun d hd => h.points d (List.mem_cons_of_mem c hd)
  rw [splitScheme, Text.cutFirst_append hfree]
  simp only [hletter, hpoints, Bool.and_self, if_true, h.small]

theorem authority_append (hauth : ∀ c ∈ auth, c ∉ Text.ofString "/?#") (htail : IsTail tail) :
    authority ("//" ++ (auth ++ tail)) = auth := by
  rw [authority, Text.dropLead?_eq_some_iff.mpr rfl]
  exact Text.takeWhile_append_of_ends (fun c hc => by simpa using hauth c hc) htail.ends

/-- Nothing in ASCII becomes a delimiter. -/
theorem checkCompatibility_of_isAscii (h : auth.isAscii = true) :
    checkCompatibility auth = .ok () := by
  have hfar : (compatibilityDelimiters.all fun n => 0x80 ≤ n) = true := by decide
  rw [checkCompatibility, if_neg]
  rw [List.any_eq_true]
  rintro ⟨c, hc, hdelimiter⟩
  have hascii := of_decide_eq_true (List.all_eq_true.mp h c hc)
  have := of_decide_eq_true (List.all_eq_true.mp hfar _ (List.contains_iff_mem.mp hdelimiter))
  omega

theorem afterUser_append (huser : IsUserPart user) {info : Text}
    (h : CodePoint.ofChar '@' ∉ info) : afterUser (user ++ info) = info := by
  rcases huser.ends with rfl | ⟨name, rfl⟩
  · rw [List.nil_append, afterUser, Text.cutLast_of_not_mem h]
    rfl
  · rw [List.append_assoc, List.singleton_append, afterUser, Text.cutLast_append name h]
    rfl

theorem checkBracketed_of_isV6 {host : Text} (h : IpLiteral.isV6 host = true) :
    checkBracketed host = .ok () := by
  obtain ⟨c, rest, rfl, hc⟩ := IpLiteral.exists_rest_of_isV6 h
  have hhead : (c :: rest).head? ≠ some (CodePoint.ofChar 'v') := by
    rintro ⟨⟩
    exact absurd hc (by decide)
  rw [checkBracketed, if_neg hhead, IpLiteral.isV4_eq_false h, h]
  rfl

theorem readPort_ofNat {n : Nat} (h : n ≤ 65535) : readPort (Text.ofNat n) = .ok (some n) := by
  have hfilled : (Text.ofNat n).isEmpty = false := by simpa using Text.ofNat_ne_nil n
  have hdigits : (Text.ofNat n).all CodePoint.isDigit = true :=
    List.all_eq_true.mpr (Text.isDigit_ofNat n)
  have hlength : (Text.ofNat n).length ≤ 5 := Text.length_ofNat_le (by decide) (by omega)
  have hshort : ¬Text.maxDigits < (Text.ofNat n).length := by
    rw [Text.maxDigits]
    omega
  rw [readPort, hfilled, hdigits, if_neg hshort, Text.digitsValue_ofNat,
    if_neg (Nat.not_lt.mpr h)]
  rfl

theorem portOrDefault_some {n : Nat} (h : 0 < n) : portOrDefault (some n) = n := by
  obtain ⟨n, rfl⟩ := Nat.exists_eq_succ_of_ne_zero h.ne'
  rfl

/-! ### The part between the slashes and the path -/

theorem mem_location {c : CodePoint} (h : c ∈ a.location) :
    c ∈ a.host ∨ c.isDigit = true ∨ c ∈ Text.ofString "[]:" := by
  rw [location, List.mem_append, List.mem_append] at h
  rcases h with (hhost | hcolon) | hdigit
  · split at hhost
    · rw [List.mem_append, List.mem_append] at hhost
      rcases hhost with (hopening | hhost) | hclosing
      · exact .inr (.inr (List.mem_singleton.mp hopening ▸ by decide))
      · exact .inl hhost
      · exact .inr (.inr (List.mem_singleton.mp hclosing ▸ by decide))
    · exact .inl hhost
  · exact .inr (.inr (List.mem_singleton.mp hcolon ▸ by decide))
  · exact .inr (.inl (Text.isDigit_ofNat _ c hdigit))

namespace Settled

/-- No user name is read out of host and port. -/
theorem userless_location (ha : a.Settled) : CodePoint.ofChar '@' ∉ a.location := by
  intro hmem
  rcases mem_location hmem with hhost | hdigit | hmark
  · exact ha.host.userless hhost
  · exact absurd hdigit (by decide)
  · exact absurd hmark (by decide)

theorem printable_location (ha : a.Settled) : ∀ c ∈ a.location, 0x20 ≤ c.val ∧ c.val < 0x80 := by
  intro c hc
  rcases mem_location hc with hhost | hdigit | hmark
  · exact ⟨ha.host.visible c hhost, of_decide_eq_true (List.all_eq_true.mp ha.host.ascii c hhost)⟩
  · simp only [CodePoint.isDigit, Bool.and_eq_true, decide_eq_true_eq] at hdigit
    omega
  · have hmarks : ((Text.ofString "[]:").all fun c => 0x20 ≤ c.val && c.val < 0x80) = true := by
      decide
    simpa using List.all_eq_true.mp hmarks c hmark

/-- No path, query or fragment begins in host and port. -/
theorem endless_location (ha : a.Settled) : ∀ c ∈ a.location, c ∉ Text.ofString "/?#" := by
  intro c hc hend
  rcases mem_location hc with hhost | hdigit | hmark
  · exact ha.host.not_bracket c hhost (List.mem_append_right "[]" hend)
  · exact Text.not_mem_of_kind (by decide) hdigit hend
  · have hkind : (Text.ofString "[]:").contains c = true := List.contains_iff_mem.mpr hmark
    exact Text.not_mem_of_kind (by decide) hkind hend

/-- A host without colons stands in a URL as it is, an IPv6 literal in brackets; so both are found
again. -/
theorem location_cases (ha : a.Settled) :
    ((∀ c ∈ Text.ofString "[]", c ∉ a.location) ∧
        Text.cutFirst ':' a.location = some (a.host, Text.ofNat a.port)) ∨
      (IpLiteral.isV6 a.host = true ∧ (∀ c ∈ Text.ofString "[]", c ∈ a.location) ∧
        ∃ bracketed, Text.cutFirst '[' a.location = some ([], bracketed) ∧
          Text.cutFirst ']' bracketed =
            some (a.host, CodePoint.ofChar ':' :: Text.ofNat a.port)) := by
  by_cases hcolon : CodePoint.ofChar ':' ∈ a.host
  · have hlocation : a.location = CodePoint.ofChar '[' ::
        (a.host ++ CodePoint.ofChar ']' :: CodePoint.ofChar ':' :: Text.ofNat a.port) := by
      rw [location, if_pos (List.contains_iff_mem.mpr hcolon)]
      simp only [List.append_assoc]
      rfl
    have hclosing : CodePoint.ofChar ']' ∉ a.host := fun hmem =>
      ha.host.not_bracket _ hmem (by decide)
    refine .inr ⟨ha.host.isV6 hcolon, ?_, _, ?_, Text.cutFirst_append hclosing _⟩
    · rw [hlocation]
      simp [Text.ofString]
    · rw [hlocation]
      exact Text.cutFirst_append List.not_mem_nil _
  · have hlocation : a.location = a.host ++ CodePoint.ofChar ':' :: Text.ofNat a.port := by
      rw [location, if_neg (by simpa using hcolon), List.append_assoc]
      rfl
    refine .inl ⟨fun c hc hmem => ?_, hlocation ▸ Text.cutFirst_append hcolon _⟩
    rw [hlocation, List.mem_append, List.mem_cons] at hmem
    rcases hmem with hhost | rfl | hdigit
    · exact ha.host.not_bracket c hhost (List.mem_append_left _ hc)
    · exact absurd hc (by decide)
    · exact Text.not_mem_of_kind (by decide) (Text.isDigit_ofNat _ c hdigit) hc

end Settled

theorem hostAndPort_append (ha : a.Settled) (huser : IsUserPart user) :
    hostAndPort (user ++ a.location) = (a.host, Text.ofNat a.port) := by
  rw [hostAndPort, afterUser_append huser ha.userless_location]
  rcases ha.location_cases with ⟨hfree, hcut⟩ | ⟨-, -, bracketed, hopening, hclosing⟩
  · rw [Text.cutFirst_of_not_mem (hfree _ (by decide)), hcut]
    rfl
  · simp only [hopening, hclosing, Option.getD_some]
    rfl

theorem checkBrackets_append (ha : a.Settled) (huser : IsUserPart user) :
    checkBrackets (user ++ a.location) = .ok () := by
  rw [checkBrackets, afterUser_append huser ha.userless_location]
  -- a user name has no brackets, so those of the authority are the host's
  rcases ha.location_cases with ⟨hfree, -⟩ | ⟨hv6, hboth, bracketed, hopening, hclosing⟩
  · have hnone : ∀ c ∈ Text.ofString "[]", (user ++ a.location).contains c = false := by
      intro c hc
      refine Bool.eq_false_iff.mpr fun hmem => ?_
      rcases List.mem_append.mp (List.contains_iff_mem.mp hmem) with hname | hlocation
      · exact huser.not_bracket c hname (List.mem_append_left _ hc)
      · exact hfree c hc hlocation
    rw [hnone _ (by decide), hnone _ (by decide)]
  · have hall : ∀ c ∈ Text.ofString "[]", (user ++ a.location).contains c = true := fun c hc =>
      List.contains_iff_mem.mpr (List.mem_append_right _ (hboth c hc))
    rw [hall _ (by decide), hall _ (by decide)]
    simp only [hopening, hclosing, Option.getD_some]
    exact checkBracketed_of_isV6 hv6

/-- **A settled address is read from every URL of it.** -/
theorem ofText_urlWith (ha : a.Settled) (huser : IsUserPart user) (htail : IsTail tail) :
    ofText (a.urlWith user tail) = .ok a := by
  have hprintable : ∀ c ∈ user ++ a.location, 0x20 ≤ c.val ∧ c.val < 0x80 :=
    List.forall_mem_append.mpr ⟨huser.printable, ha.printable_location⟩
  have hendless : ∀ c ∈ user ++ a.location, c ∉ Text.ofString "/?#" := by
    refine List.forall_mem_append.mpr ⟨fun c hc hend => ?_, ha.endless_location⟩
    exact huser.not_bracket c hc (List.mem_append_right "[]" hend)
  have hascii : (user ++ a.location).isAscii = true :=
    List.all_eq_true.mpr fun c hc => decide_eq_true (hprintable c hc).2
  have hurl : a.urlWith user tail =
      a.scheme ++ CodePoint.ofChar ':' :: ("//" ++ ((user ++ a.location) ++ tail)) := by
    simp only [urlWith, List.append_assoc]
    rfl
  -- from here on the URL is taken apart in the order in which it was put together
  have hslashes : ((Text.ofString "//").all fun c => 0x20 ≤ c.val) = true := by decide
  have hcleaned : cleaned (a.urlWith user tail) = a.urlWith user tail := by
    rw [hurl]
    refine cleaned_append ha.scheme (List.forall_mem_cons.mpr ⟨by decide, ?_⟩)
    refine List.forall_mem_append.mpr ⟨?_, List.forall_mem_append.mpr ⟨?_, htail.visible⟩⟩
    · exact fun c hc => of_decide_eq_true (List.all_eq_true.mp hslashes c hc)
    · exact fun c hc => (hprintable c hc).1
  have hsplit : splitScheme (cleaned (a.urlWith user tail)) =
      (a.scheme, "//" ++ ((user ++ a.location) ++ tail)) := by
    rw [hcleaned, hurl, splitScheme_append ha.scheme]
  have hauthority : authority ("//" ++ ((user ++ a.location) ++ tail)) = user ++ a.location :=
    authority_append hendless htail
  have hlocation := hostAndPort_append ha huser
  rw [← hauthority] at hlocation
  refine (ofText_eq_ok_iff hsplit hlocation).mpr ?_
  rw [hauthority, ha.host.small]
  refine ⟨checkBrackets_append ha huser, checkCompatibility_of_isAscii hascii, ha.host.filled,
    ha.host.checked, some a.port, readPort_ofNat ha.port_le, ?_⟩
  rw [if_neg (by simpa using ha.scheme.ne_nil), portOrDefault_some ha.port_pos]

end FacetSearch.Address
