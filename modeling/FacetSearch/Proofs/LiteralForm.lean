/-
# FacetSearch.Proofs.LiteralForm — IPv6 literals by their grammar.

An IPv6 literal is eight groups of one to four hexadecimal digits between colons.  One run of groups
may be left out, two colons in its place, and four numbers between points may stand for the last two
groups.  Here the grammar is a type: a literal is put together from its groups and has no zone.  The
main statement is that the reader takes the text of every literal.
-/
import FacetSearch.Engine.IpLiteral
import FacetSearch.Proofs.Cutting
import FacetSearch.Proofs.Numeral

namespace FacetSearch

/-! ## The grammar -/

namespace Ipv6

/-- The digits of groups. -/
def groupDigits : Text := "0123456789abcdef"

/-- One to four small hexadecimal digits. -/
structure Group where
  text : Text
  filled : text ≠ []
  short : text.length ≤ 4
  digits : ∀ c ∈ text, c ∈ groupDigits

/-- The four numbers of an IPv4 literal. -/
structure Quad where
  first : Fin 256
  second : Fin 256
  third : Fin 256
  fourth : Fin 256

/-- The numbers in their order. -/
def Quad.octets (q : Quad) : List Text :=
  [Text.ofNat q.first, Text.ofNat q.second, Text.ofNat q.third, Text.ofNat q.fourth]

/-- Groups in a row, perhaps with an IPv4 literal at the end. -/
structure Row where
  groups : List Group
  quad : Option Quad

namespace Row

/-- What stands between the colons of a row. -/
def pieces (r : Row) : List Text :=
  r.groups.map Group.text ++ (r.quad.map fun q => Text.join "." q.octets).toList

/-- How many groups a row stands for: an IPv4 literal stands for two. -/
def size (r : Row) : Nat := r.groups.length + 2 * r.quad.toList.length

end Row

end Ipv6

/-- An IPv6 literal: eight groups, or fewer with a gap between two rows. -/
inductive Ipv6 where
  | whole (row : Ipv6.Row) (size : row.size = 8)
  | gapped (high : List Ipv6.Group) (low : Ipv6.Row) (size : high.length + low.size ≤ 7)

namespace Ipv6

/-- Small hexadecimal digits and points stand in the pieces of a literal. -/
def isPiecePoint (c : CodePoint) : Bool :=
  c.isDigit || (0x61 ≤ c.val && c.val ≤ 0x66) || c == ('.' : CodePoint)

/-- The code points of literals in small letters. -/
def isPoint (c : CodePoint) : Bool := isPiecePoint c || c == (':' : CodePoint)

/-- The text of a literal. -/
def text : Ipv6 → Text
  | whole row _ => Text.join ":" row.pieces
  | gapped high low _ => Text.join ":" (high.map Group.text) ++ "::" ++ Text.join ":" low.pieces

/-! ## Groups and octets are read -/

/-- What holds of the sixteen digits holds of every code point of a group. -/
theorem Group.all_of_digits (g : Group) {p : CodePoint → Bool} (h : groupDigits.all p = true) :
    ∀ c ∈ g.text, p c = true :=
  fun c hc => List.all_eq_true.mp h c (g.digits c hc)

theorem Group.isGroup (g : Group) : IpLiteral.isGroup g.text = true := by
  have hfilled : g.text.isEmpty = false := by simpa using g.filled
  have hdigits : (g.text.all fun c => c.hexValue?.isSome) = true :=
    List.all_eq_true.mpr (g.all_of_digits (by decide))
  rw [IpLiteral.isGroup, hfilled, hdigits, decide_eq_true g.short]
  rfl

theorem isOctet_ofNat {n : Nat} (h : n < 256) : IpLiteral.isOctet (Text.ofNat n) = true := by
  have hfilled : (Text.ofNat n).isEmpty = false := by simpa using Text.ofNat_ne_nil n
  have hdigits : (Text.ofNat n).all CodePoint.isDigit = true :=
    List.all_eq_true.mpr (Text.isDigit_ofNat n)
  have hshort : (Text.ofNat n).length ≤ 3 := Text.length_ofNat_le (by decide) (by omega)
  have hlead : ((Text.ofNat n).length == 1 ||
      (Text.ofNat n).head? != some ('0' : CodePoint)) = true := by
    rcases Nat.eq_zero_or_pos n with rfl | hpos
    · rfl
    · simpa using .inr (Text.head?_ofNat hpos)
  rw [IpLiteral.isOctet, hfilled, hdigits, hlead, decide_eq_true hshort, Text.digitsValue_ofNat,
    decide_eq_true (Nat.le_of_lt_succ h)]
  rfl

theorem all_isDigit_of_isOctet {t : Text} (h : IpLiteral.isOctet t = true) :
    t.all CodePoint.isDigit = true := by
  simp only [IpLiteral.isOctet, Bool.and_eq_true] at h
  exact h.1.1.1.2

theorem Quad.isOctet (q : Quad) {t : Text} (h : t ∈ q.octets) : IpLiteral.isOctet t = true := by
  simp only [Quad.octets, List.mem_cons, List.not_mem_nil, or_false] at h
  rcases h with rfl | rfl | rfl | rfl <;> exact isOctet_ofNat (Fin.isLt _)

/-- An IPv4 literal is its octets between points. -/
theorem Quad.isV4_join (q : Quad) : IpLiteral.isV4 (Text.join "." q.octets) = true := by
  have hpoint : ∀ t ∈ q.octets, ('.' : CodePoint) ∉ t := by
    intro t ht hpoint
    have hdigit := List.all_eq_true.mp (all_isDigit_of_isOctet (q.isOctet ht)) _ hpoint
    exact absurd hdigit (by decide)
  have hsplit : Text.splitOn '.' (Text.join "." q.octets) = q.octets :=
    Text.splitOn_join (List.cons_ne_nil _ _) hpoint
  rw [IpLiteral.isV4, hsplit, List.all_eq_true.mpr fun _ => q.isOctet]
  rfl

/-! ## The two sides of a gap -/

/-- A side of a gap with so many groups on it: one empty piece, or groups. -/
def IsSide (side : List Text) (n : Nat) : Prop :=
  (side = [[]] ∧ n = 0) ∨
    (side ≠ [] ∧ (∀ t ∈ side, IpLiteral.isGroup t = true) ∧ n = side.length)

namespace IsSide

variable {side low : List Text} {n m : Nat}

theorem isEmpty_eq_false {t : Text} (h : IpLiteral.isGroup t = true) : t.isEmpty = false := by
  simp only [IpLiteral.isGroup, Bool.and_eq_true, Bool.not_eq_true'] at h
  exact h.1.1

theorem ne_nil (h : IsSide side n) : side ≠ [] := by
  rcases h with ⟨rfl, -⟩ | ⟨hne, -, -⟩
  · exact List.cons_ne_nil _ _
  · exact hne

theorem sideLength? (h : IsSide side n) : IpLiteral.sideLength? side = some n := by
  rcases h with ⟨rfl, rfl⟩ | ⟨hne, hgroups, rfl⟩
  · rfl
  · have hfilled : side ≠ [[]] := by
      rintro rfl
      exact absurd (hgroups [] (List.mem_singleton_self _)) (by decide)
    rw [IpLiteral.sideLength?, if_neg hfilled, if_pos (List.all_eq_true.mpr hgroups)]

theorem length_le (h : IsSide side n) : side.length ≤ max 1 n := by
  rcases h with ⟨rfl, rfl⟩ | ⟨-, -, rfl⟩
  · decide
  · exact le_max_right _ _

theorem tail_filled (h : IsSide side n) : ∀ t ∈ side.tail, t.isEmpty = false := by
  rcases h with ⟨rfl, -⟩ | ⟨-, hgroups, -⟩
  · exact fun t ht => absurd ht List.not_mem_nil
  · exact fun t ht => isEmpty_eq_false (hgroups t (List.mem_of_mem_tail ht))

theorem dropLast_filled (h : IsSide side n) : ∀ t ∈ side.dropLast, t.isEmpty = false := by
  rcases h with ⟨rfl, -⟩ | ⟨-, hgroups, -⟩
  · exact fun t ht => absurd ht List.not_mem_nil
  · exact fun t ht => isEmpty_eq_false (hgroups t (List.dropLast_subset _ ht))

/-- Two sides with at most seven groups and a gap between them make up an address. -/
theorem areGroups (hhigh : IsSide side n) (hlow : IsSide low m) (h : n + m ≤ 7) :
    IpLiteral.areGroups (side ++ [] :: low) = true := by
  obtain ⟨t, ts, rfl⟩ := List.exists_cons_of_ne_nil hhigh.ne_nil
  have hinner : ((t :: ts ++ [] :: low).drop 1).dropLast = ts ++ [] :: low.dropLast := by
    rw [List.cons_append, List.drop_one, List.tail_cons, List.dropLast_append_cons,
      List.dropLast_cons_of_ne_nil hlow.ne_nil]
  have hgap : (ts ++ [] :: low.dropLast).findIdx? (·.isEmpty) = some ts.length := by
    have hfilled : ts.findIdx? (·.isEmpty) = none :=
      List.findIdx?_eq_none_iff.mpr hhigh.tail_filled
    rw [List.findIdx?_append, hfilled, List.findIdx?_cons]
    simp
  have hlength : (t :: ts ++ [] :: low).length ≤ 9 := by
    have hhigh := hhigh.length_le
    have hlow := hlow.length_le
    simp only [List.length_append, List.length_cons] at hhigh ⊢
    omega
  have htake : (t :: ts ++ [] :: low).take (ts.length + 1) = t :: ts :=
    List.take_left' rfl
  have hdrop : (t :: ts ++ [] :: low).drop (ts.length + 2) = low := by
    simp
  have hrest : (ts ++ [] :: low.dropLast).drop (ts.length + 1) = low.dropLast := by
    simp
  simp only [IpLiteral.areGroups, hinner, hgap, htake, hdrop, hrest, hhigh.sideLength?,
    hlow.sideLength?, Bool.and_eq_true, decide_eq_true_eq]
  exact ⟨⟨hlength, by simpa using hlow.dropLast_filled⟩, h⟩

end IsSide

/-! ## Literals are read -/

namespace Row

/-- The pieces on one side of a gap: one empty piece stands for a row of nothing. -/
def side (r : Row) : List Text := if r.pieces = [] then [[]] else r.pieces

/-- The groups that a row stands for. -/
def spelled (r : Row) : List Text :=
  r.groups.map Group.text ++ r.quad.toList.flatMap fun _ => [Text.ofString "0", Text.ofString "0"]

/-- The groups on one side of a gap. -/
def spelledSide (r : Row) : List Text := if r.pieces = [] then [[]] else r.spelled

theorem length_spelled (r : Row) : r.spelled.length = r.size := by
  cases hquad : r.quad <;> simp [spelled, size, hquad]

theorem isGroup_spelled (r : Row) : ∀ t ∈ r.spelled, IpLiteral.isGroup t = true := by
  intro t ht
  rcases List.mem_append.mp ht with ht | ht
  · obtain ⟨g, -, rfl⟩ := List.mem_map.mp ht
    exact g.isGroup
  · obtain ⟨-, -, hzero⟩ := List.mem_flatMap.mp ht
    have hzero : t = Text.ofString "0" := by simpa using hzero
    rw [hzero]
    decide

theorem size_le_length_pieces (r : Row) : r.size ≤ r.pieces.length + 1 := by
  cases hquad : r.quad <;> simp [pieces, size, hquad]

theorem pieces_eq_nil_iff (r : Row) : r.pieces = [] ↔ r.size = 0 := by
  obtain ⟨groups, quad⟩ := r
  cases groups <;> cases quad <;> simp [pieces, size]

theorem isSide_spelledSide (r : Row) : IsSide r.spelledSide r.size := by
  by_cases h : r.pieces = []
  · exact .inl ⟨by rw [spelledSide, if_pos h], r.pieces_eq_nil_iff.mp h⟩
  · have hfilled : r.spelled ≠ [] := by
      intro hnone
      have hlength := r.length_spelled
      rw [hnone] at hlength
      exact h (r.pieces_eq_nil_iff.mpr hlength.symm)
    rw [spelledSide, if_neg h]
    exact .inr ⟨hfilled, r.isGroup_spelled, r.length_spelled.symm⟩

theorem side_ne_nil (r : Row) : r.side ≠ [] := by
  rw [side]
  split
  · exact List.cons_ne_nil _ _
  · assumption

theorem join_side (r : Row) : Text.join ":" r.side = Text.join ":" r.pieces := by
  by_cases h : r.pieces = []
  · rw [side, if_pos h, h]
    rfl
  · rw [side, if_neg h]

theorem mem_side {r : Row} {t : Text} (h : t ∈ r.side) : t = [] ∨ t ∈ r.pieces := by
  rw [side] at h
  split at h
  · exact .inl (List.mem_singleton.mp h)
  · exact .inr h

theorem isPiecePoint_of_mem {r : Row} {t : Text} (h : t ∈ r.pieces) :
    ∀ c ∈ t, isPiecePoint c = true := by
  intro c hc
  rcases List.mem_append.mp h with h | h
  · obtain ⟨g, -, rfl⟩ := List.mem_map.mp h
    exact g.all_of_digits (p := isPiecePoint) (by decide) c hc
  · obtain ⟨q, -, rfl⟩ := Option.map_eq_some_iff.mp (Option.mem_toList.mp h)
    rcases Text.mem_join hc with hpoint | ⟨octet, hoctet, hdigit⟩
    · rw [List.mem_singleton.mp hpoint]
      decide
    · have hdigit := List.all_eq_true.mp (all_isDigit_of_isOctet (q.isOctet hoctet)) c hdigit
      simp [isPiecePoint, hdigit]

/-- No colon stands in a piece. -/
theorem colon_not_mem_side (r : Row) : ∀ t ∈ r.side, (':' : CodePoint) ∉ t := by
  intro t ht hcolon
  rcases mem_side ht with rfl | ht
  · exact List.not_mem_nil hcolon
  · exact absurd (isPiecePoint_of_mem ht _ hcolon) (by decide)

theorem spelledSide_eq_side {r : Row} (hquad : r.quad = none) : r.spelledSide = r.side := by
  simp [spelledSide, side, spelled, pieces, hquad]

/-- Without an IPv4 literal at the end, no point stands in a piece. -/
theorem point_not_mem_side {r : Row} (hquad : r.quad = none) :
    ∀ t ∈ r.side, ('.' : CodePoint) ∉ t := by
  intro t ht hpoint
  rcases mem_side ht with rfl | ht
  · exact List.not_mem_nil hpoint
  · rw [pieces, hquad, Option.map_none, Option.toList_none, List.append_nil] at ht
    obtain ⟨g, -, rfl⟩ := List.mem_map.mp ht
    exact absurd (g.all_of_digits (p := (· ≠ '.')) (by decide) _ hpoint) (by decide)

/-- What a row ends with is put in groups, whatever stands in front of it. -/
theorem groups?_join (r : Row) (front : List Text)
    (hfront : ∀ t ∈ front, (':' : CodePoint) ∉ t) (hlength : 3 ≤ (front ++ r.side).length) :
    IpLiteral.groups? (Text.join ":" (front ++ r.side)) = some (front ++ r.spelledSide) := by
  have hfree : ∀ t ∈ front ++ r.side, (':' : CodePoint) ∉ t :=
    List.forall_mem_append.mpr ⟨hfront, r.colon_not_mem_side⟩
  have hfilled : front ++ r.side ≠ [] := List.ne_nil_of_length_pos (by omega)
  have hsplit : Text.splitOn ':' (Text.join ":" (front ++ r.side)) = front ++ r.side :=
    Text.splitOn_join hfilled hfree
  rw [IpLiteral.groups?, hsplit, if_neg (by omega)]
  cases hquad : r.quad with
  | none =>
      obtain ⟨init, last, hlast⟩ : ∃ init last, r.side = init ++ [last] :=
        ⟨_, _, (List.dropLast_concat_getLast r.side_ne_nil).symm⟩
      have hpoint : ('.' : CodePoint) ∉ last :=
        point_not_mem_side hquad last (hlast ▸ List.mem_append_right _ (List.mem_singleton_self _))
      rw [spelledSide_eq_side hquad, hlast, ← List.append_assoc, List.getLast?_concat]
      simp only [if_neg hpoint]
  | some q =>
      have hpieces : r.pieces = r.groups.map Group.text ++ [Text.join "." q.octets] := by
        rw [pieces, hquad]
        rfl
      have hne : r.pieces ≠ [] := by simp [hpieces]
      have hpoint : ('.' : CodePoint) ∈ Text.join "." q.octets := by
        simp [Quad.octets, Text.join_cons_cons, Text.ofString]
      rw [side, if_neg hne, spelledSide, if_neg hne, hpieces, ← List.append_assoc,
        List.getLast?_concat, List.dropLast_concat, spelled, hquad]
      simp only [if_pos hpoint, if_pos q.isV4_join, List.append_assoc]
      rfl

end Row

/-- The pieces of a literal with a gap: the two sides, and nothing between them. -/
theorem text_gapped (high : List Group) (low : Row) (size : high.length + low.size ≤ 7) :
    (gapped high low size).text = Text.join ":" (Row.side ⟨high, none⟩ ++ [] :: low.side) := by
  have hhigh : Text.join ":" (Row.side ⟨high, none⟩) = Text.join ":" (high.map Group.text) := by
    rw [Row.join_side, Row.pieces, Option.map_none, Option.toList_none, List.append_nil]
  have hlow : Text.join ":" ([] :: low.side) = ":" ++ Text.join ":" low.pieces := by
    obtain ⟨t, ts, hside⟩ := List.exists_cons_of_ne_nil low.side_ne_nil
    rw [← Row.join_side, hside, Text.join_cons_cons, List.nil_append]
  rw [text, Text.join_append (Row.side_ne_nil _) (List.cons_ne_nil _ _), hhigh, hlow]
  simp only [List.append_assoc]
  rfl

theorem isPoint_of_mem (l : Ipv6) : ∀ c ∈ l.text, isPoint c = true := by
  have hpieces : ∀ (r : Row) (t : Text), t ∈ r.side → ∀ c ∈ t, isPoint c = true := by
    intro r t ht c hc
    rcases Row.mem_side ht with rfl | ht
    · exact absurd hc List.not_mem_nil
    · rw [isPoint, Row.isPiecePoint_of_mem ht c hc, Bool.true_or]
  have hjoined : ∀ ts : List Text, (∀ t ∈ ts, ∀ c ∈ t, isPoint c = true) →
      ∀ c ∈ Text.join ":" ts, isPoint c = true := by
    intro ts hts c hc
    rcases Text.mem_join hc with hcolon | ⟨t, ht, hc⟩
    · rw [List.mem_singleton.mp hcolon]
      decide
    · exact hts t ht c hc
  cases l with
  | whole row size =>
      rw [text, ← Row.join_side]
      exact hjoined _ (hpieces row)
  | gapped high low size =>
      rw [text_gapped]
      refine hjoined _ (List.forall_mem_append.mpr ⟨hpieces _, List.forall_mem_cons.mpr ⟨?_, ?_⟩⟩)
      · exact fun c hc => absurd hc List.not_mem_nil
      · exact hpieces low

/-- A percent sign would begin a zone; a literal has none. -/
theorem percent_not_mem_text (l : Ipv6) : ('%' : CodePoint) ∉ l.text := fun h =>
  absurd (l.isPoint_of_mem _ h) (by decide)

/-- Eight groups make up an address. -/
theorem areGroups_whole {groups : List Text} (hlength : groups.length = 8)
    (hgroups : ∀ t ∈ groups, IpLiteral.isGroup t = true) : IpLiteral.areGroups groups = true := by
  have hgap : ((groups.drop 1).dropLast).findIdx? (·.isEmpty) = none := by
    refine List.findIdx?_eq_none_iff.mpr fun t ht => IsSide.isEmpty_eq_false (hgroups t ?_)
    exact List.drop_subset 1 _ (List.dropLast_subset _ ht)
  simp only [IpLiteral.areGroups, hgap, hlength, List.all_eq_true.mpr hgroups]
  rfl

/-- **The reader takes every literal of the grammar.** -/
theorem isV6_text (l : Ipv6) : IpLiteral.isV6 l.text = true := by
  have hgroups : ((IpLiteral.groups? l.text).map IpLiteral.areGroups).getD false = true := by
    cases l with
    | whole row size =>
        have hpieces := row.size_le_length_pieces
        have hne : row.pieces ≠ [] := List.ne_nil_of_length_pos (by omega)
        have hread := row.groups?_join [] (by simp) (by
          rw [List.nil_append, Row.side, if_neg hne]
          omega)
        rw [List.nil_append, List.nil_append, Row.join_side, Row.spelledSide, if_neg hne] at hread
        rw [text, hread]
        exact areGroups_whole (row.length_spelled.trans size) row.isGroup_spelled
    | gapped high low size =>
        have hfront : ∀ t ∈ Row.side ⟨high, none⟩ ++ [[]], (':' : CodePoint) ∉ t :=
          List.forall_mem_append.mpr ⟨Row.colon_not_mem_side _,
            List.forall_mem_singleton.mpr List.not_mem_nil⟩
        have hlength : 3 ≤ ((Row.side ⟨high, none⟩ ++ [[]]) ++ low.side).length := by
          have hhigh := List.length_pos_iff.mpr (Row.side_ne_nil ⟨high, none⟩)
          have hlow := List.length_pos_iff.mpr low.side_ne_nil
          simp only [List.length_append, List.length_singleton]
          omega
        have hread := low.groups?_join _ hfront hlength
        rw [List.append_assoc, List.append_assoc, List.singleton_append, List.singleton_append]
          at hread
        have hhigh : IsSide (Row.side ⟨high, none⟩) high.length :=
          Row.spelledSide_eq_side (r := ⟨high, none⟩) rfl ▸ Row.isSide_spelledSide ⟨high, none⟩
        rw [text_gapped, hread]
        exact hhigh.areGroups low.isSide_spelledSide size
  rw [IpLiteral.isV6, Text.cutFirst_of_not_mem l.percent_not_mem_text]
  simp only [hgroups, Bool.and_self]

end Ipv6

end FacetSearch
