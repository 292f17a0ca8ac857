/-
# FacetSearch.Proofs.JsonScalar — texts, words and numbers are read as they are written.

A text spells a value if it is read as this value wherever it stands, up to its end and not beyond,
and if no control character is in it.  Quoted texts, the words of JSON, integers that are not too
long and all doubles are spelled by what is written for them.
-/
import FacetSearch.Proofs.FloatText
import FacetSearch.Proofs.JsonToken

namespace FacetSearch.Json

/-! ## Cursors -/

namespace Cursor

theorem rest_advance {cur : Cursor} {t rest : Text} (h : cur.rest = t ++ rest) :
    (cur.advance t.length).rest = rest := by
  rw [advance, h]
  exact List.drop_left

theorem advance_advance (cur : Cursor) (m n : Nat) :
    (cur.advance m).advance n = cur.advance (m + n) := by
  simp only [advance, List.drop_drop, Nat.add_assoc]

theorem skipSpace_self {cur : Cursor} (h : Text.Ends isSpace cur.rest) : cur.skipSpace = cur := by
  have hnone : cur.rest.takeWhile isSpace = [] :=
    Text.takeWhile_append_of_ends (List.forall_mem_nil _) h
  rw [skipSpace, hnone]
  rfl

theorem sees_cons {cur : Cursor} {c : CodePoint} {rest : Text} (h : cur.rest = c :: rest)
    (d : CodePoint) : cur.sees d = (c == d) := by
  rw [sees, h]
  rfl

/-- Before anything but a blank nothing is skipped. -/
theorem skipSpace_cons {cur : Cursor} {c : CodePoint} {rest : Text} (h : cur.rest = c :: rest)
    (hc : isSpace c = false) : cur.skipSpace = cur := by
  apply skipSpace_self
  rw [h]
  rintro d ⟨⟩
  exact hc

end Cursor

/-! ## Marks -/

/-- A mark, and blanks perhaps after it. -/
def IsMark (mark : CodePoint) (t : Text) : Prop :=
  ∃ k, t = mark :: List.replicate k (CodePoint.ofChar ' ')

/-- A style whose marks are those of JSON. -/
structure Style.Regular (style : Style) : Prop where
  comma : IsMark ',' style.comma
  colon : IsMark ':' style.colon

theorem Style.regular_logLine : Style.logLine.Regular := ⟨⟨1, rfl⟩, ⟨1, rfl⟩⟩

theorem Style.regular_body : Style.body.Regular := ⟨⟨0, rfl⟩, ⟨0, rfl⟩⟩

namespace IsMark

variable {mark : CodePoint} {t : Text}

theorem visible (ht : IsMark mark t) (hmark : 0x20 ≤ mark.val) : ∀ c ∈ t, 0x20 ≤ c.val := by
  obtain ⟨k, rfl⟩ := ht
  refine List.forall_mem_cons.mpr ⟨hmark, fun c hc => ?_⟩
  rw [List.eq_of_mem_replicate hc]
  decide

theorem length_pos (ht : IsMark mark t) : 0 < t.length := by
  obtain ⟨k, rfl⟩ := ht
  exact Nat.succ_pos _

theorem exists_cons (ht : IsMark mark t) (rest : Text) : ∃ tail, t ++ rest = mark :: tail := by
  obtain ⟨k, rfl⟩ := ht
  exact ⟨_, rfl⟩

/-- Past a mark its blanks are skipped. -/
theorem pass (ht : IsMark mark t) {cur : Cursor} {rest : Text} (h : cur.rest = t ++ rest)
    (hrest : Text.Ends Cursor.isSpace rest) :
    (cur.advance 1).skipSpace = cur.advance t.length := by
  obtain ⟨k, rfl⟩ := ht
  have hinside : (cur.advance 1).rest = List.replicate k (CodePoint.ofChar ' ') ++ rest :=
    Cursor.rest_advance (t := [mark]) h
  have hblanks : ∀ c ∈ List.replicate k (CodePoint.ofChar ' '), Cursor.isSpace c = true := by
    intro c hc
    rw [List.eq_of_mem_replicate hc]
    rfl
  rw [Cursor.skipSpace, hinside, Text.takeWhile_append_of_ends hblanks hrest,
    Cursor.advance_advance, List.length_cons, Nat.add_comm]

end IsMark

/-! ## Texts that spell values -/

/-- Whether a code point is a blank, or opens or closes something. -/
def isMarkup (c : CodePoint) : Bool :=
  Cursor.isSpace c || c = '"' || c = '[' || c = ']' || c = '\x7b'

theorem isMarkup_of_isDigit {c : CodePoint} (h : c.isDigit = true) : isMarkup c = false := by
  rw [Bool.eq_false_iff]
  intro hmarkup
  simp only [isMarkup, Bool.or_eq_true, decide_eq_true_eq] at hmarkup
  rcases hmarkup with (((hspace | rfl) | rfl) | rfl) | rfl
  · simp only [Cursor.isSpace, Bool.or_eq_true, decide_eq_true_eq] at hspace
    simp only [CodePoint.isDigit, Bool.and_eq_true, decide_eq_true_eq] at h
    omega
  all_goals exact absurd h (by decide)

/-- A text spells a value: it begins with something that is no blank and no bracket, it has no
control characters, and wherever it stands it is read as the value, given fuel for its length. -/
structure Spells (depth : Nat) (t : Text) (v : Value) : Prop where
  begins : ∃ c rest, t = c :: rest ∧ Cursor.isSpace c = false ∧ c ≠ CodePoint.ofChar ']'
  visible : ∀ c ∈ t, 0x20 ≤ c.val
  reads : ∀ {fuel : Nat} {cur : Cursor} {rest : Text}, t.length ≤ fuel + 1 →
    cur.rest = t ++ rest → Separated rest →
    valueAt (fuel + 1) depth cur = .ok (v, cur.advance t.length)

namespace Spells

variable {depth : Nat} {t : Text} {v : Value}

theorem ends (h : Spells depth t v) (rest : Text) : Text.Ends Cursor.isSpace (t ++ rest) := by
  obtain ⟨c, tail, rfl, hspace, -⟩ := h.begins
  rintro d ⟨⟩
  exact hspace

theorem value (h : Spells depth t v) {fuel : Nat} (hfuel : t.length ≤ fuel) {cur : Cursor}
    {rest : Text} (hcur : cur.rest = t ++ rest) (hrest : Separated rest) :
    valueAt fuel depth cur = .ok (v, cur.advance t.length) := by
  obtain ⟨c, tail, rfl, -⟩ := h.begins
  cases fuel with
  | zero => exact absurd hfuel (Nat.not_succ_le_zero _)
  | succ fuel => exact h.reads hfuel hcur hrest

/-- A quoted text spells the text. -/
theorem text (depth : Nat) (t : Text) : Spells depth (quote t) (.text t) where
  begins := ⟨'"', _, quote_eq t, rfl, by decide⟩
  visible := control_quote t
  reads := by
    intro fuel cur rest _ h _
    have hquote : cur.sees '"' = true := by
      rw [quote_eq] at h
      rw [Cursor.sees_cons h]
      rfl
    rw [valueAt, if_pos hquote, textAt_quote h]
    rfl

/-- What begins like a word or a number is read as such. -/
theorem scalar {c : CodePoint} {tail : Text} (ht : t = c :: tail) (hc : isMarkup c = false)
    (visible : ∀ d ∈ t, 0x20 ≤ d.val)
    (hread : ∀ {cur : Cursor} {rest : Text}, cur.rest = t ++ rest → Separated rest →
      scalarAt cur = .ok (v, cur.advance t.length)) : Spells depth t v := by
  simp only [isMarkup, Bool.or_eq_false_iff, decide_eq_false_iff_not] at hc
  obtain ⟨⟨⟨⟨hspace, hquote⟩, hopen⟩, hclose⟩, hbrace⟩ := hc
  refine ⟨⟨c, tail, ht, hspace, hclose⟩, visible, ?_⟩
  intro fuel cur rest _ hcur hrest
  have hsees := Cursor.sees_cons (hcur.trans (by rw [ht, List.cons_append]))
  rw [valueAt]
  simp only [hsees, beq_eq_false_iff_ne.mpr hquote, beq_eq_false_iff_ne.mpr hopen,
    beq_eq_false_iff_ne.mpr hbrace, Bool.false_eq_true, if_false]
  exact hread hcur hrest

end Spells

/-- A word is read as what it stands for, whatever follows: no word begins with another. -/
theorem scalarAt_word {word : Text} {v : Value} (h : (word, v) ∈ words) {cur : Cursor}
    {rest : Text} (hcur : cur.rest = word ++ rest) :
    scalarAt cur = .ok (v, cur.advance word.length) := by
  rw [scalarAt, hcur]
  simp only [words, List.mem_cons, List.not_mem_nil, or_false, Prod.mk.injEq] at h
  rcases h with ⟨rfl, rfl⟩ | ⟨rfl, rfl⟩ | ⟨rfl, rfl⟩ | ⟨rfl, rfl⟩ | ⟨rfl, rfl⟩ | ⟨rfl, rfl⟩ <;> rfl

theorem Spells.word (depth : Nat) {word : Text} {v : Value} (h : (word, v) ∈ words) :
    Spells depth word v := by
  have hshape : (∃ c rest, word = c :: rest ∧ isMarkup c = false) ∧
      word.all (fun c => decide (0x20 ≤ c.val)) = true := by
    simp only [words, List.mem_cons, List.not_mem_nil, or_false, Prod.mk.injEq] at h
    rcases h with ⟨rfl, -⟩ | ⟨rfl, -⟩ | ⟨rfl, -⟩ | ⟨rfl, -⟩ | ⟨rfl, -⟩ | ⟨rfl, -⟩ <;>
      exact ⟨⟨_, _, rfl, rfl⟩, rfl⟩
  obtain ⟨⟨c, rest, hc, hmarkup⟩, hvisible⟩ := hshape
  refine .scalar hc hmarkup (fun d hd => ?_) fun hcur _ => scalarAt_word h hcur
  exact of_decide_eq_true (List.all_eq_true.mp hvisible d hd)

theorem not_isPrefixOf_cons {c d : CodePoint} {word tail : Text} (h : (c == d) = false) :
    ¬ List.isPrefixOf (c :: word) (d :: tail) = true := by
  rw [List.isPrefixOf, h, Bool.false_and]
  exact Bool.false_ne_true

/-- A numeral begins with a digit, or with a minus sign and then a digit. -/
theorem scalarAt_numeral (n : Numeral) {cur : Cursor} {rest : Text}
    (hcur : cur.rest = n.toText ++ rest) (hrest : Separated rest) :
    scalarAt cur = (readNumeral n).map fun v => (v, cur.advance n.toText.length) := by
  obtain ⟨d, ds, hds, hdigit⟩ := n.exists_digit
  have hne {c : CodePoint} (hc : c.isDigit = false) : (c == d) = false := by
    rw [beq_eq_false_iff_ne]
    rintro rfl
    exact absurd hdigit (by rw [hc]; decide)
  have hword : (words.find? fun entry => entry.1.isPrefixOf cur.rest) = none := by
    have hstart (tail : Text) : n.toText ++ tail =
        n.signText ++ d :: (ds ++ n.fractionText ++ n.exponentText ++ tail) := by
      simp [Numeral.toText, hds]
    rw [hcur, hstart, Numeral.signText, List.find?_eq_none]
    simp only [words, List.forall_mem_cons]
    cases n.negative
    · refine ⟨?_, ?_, ?_, ?_, ?_, ?_, List.forall_mem_nil _⟩ <;>
        exact not_isPrefixOf_cons (hne rfl)
    · refine ⟨?_, ?_, ?_, ?_, ?_, ?_, List.forall_mem_nil _⟩
      · exact not_isPrefixOf_cons rfl
      · exact not_isPrefixOf_cons rfl
      · exact not_isPrefixOf_cons rfl
      · exact not_isPrefixOf_cons rfl
      · exact not_isPrefixOf_cons rfl
      · -- the sign is the same, what comes after it is not
        exact fun h => not_isPrefixOf_cons (hne rfl) (Bool.and_eq_true_iff.mp h).2
  unfold scalarAt
  split
  · next hfound => exact absurd (hword.symm.trans hfound) (by simp)
  · exact numberAt_toText n hcur hrest

theorem visible_of_isDigit {c : CodePoint} (h : c.isDigit = true) : 0x20 ≤ c.val := by
  simp only [CodePoint.isDigit, Bool.and_eq_true, decide_eq_true_eq] at h
  omega

theorem visible_numeral (n : Numeral) : ∀ c ∈ n.toText, 0x20 ≤ c.val := by
  have hdigits (ds : Digits) : ∀ c ∈ ds.text, 0x20 ≤ c.val :=
    fun c hc => visible_of_isDigit (ds.digits c hc)
  have hsign : ∀ c ∈ n.signText, 0x20 ≤ c.val := by
    unfold Numeral.signText
    split_ifs
    · exact List.forall_mem_singleton.mpr (by decide)
    · exact List.forall_mem_nil _
  have hfraction : ∀ c ∈ n.fractionText, 0x20 ≤ c.val := by
    unfold Numeral.fractionText
    cases n.places with
    | none => exact List.forall_mem_nil _
    | some ds => exact List.forall_mem_cons.mpr ⟨by decide, hdigits ds⟩
  have hexponent : ∀ c ∈ n.exponentText, 0x20 ≤ c.val := by
    unfold Numeral.exponentText
    cases n.exponent with
    | none => exact List.forall_mem_nil _
    | some exponent =>
        obtain ⟨negative, ds⟩ := exponent
        refine List.forall_mem_cons.mpr ⟨by decide, List.forall_mem_cons.mpr ⟨?_, hdigits ds⟩⟩
        cases negative <;> decide
  rw [Numeral.toText]
  simp only [List.forall_mem_append]
  exact ⟨⟨⟨hsign, hdigits n.whole⟩, hfraction⟩, hexponent⟩

/-- What a numeral is read as, it spells. -/
theorem Spells.numeral (depth : Nat) {n : Numeral} {v : Value} (h : readNumeral n = .ok v) :
    Spells depth n.toText v := by
  obtain ⟨d, ds, hds, hdigit⟩ := n.exists_digit
  obtain ⟨c, tail, htext, hc⟩ : ∃ c tail, n.toText = c :: tail ∧ isMarkup c = false := by
    rw [Numeral.toText, Numeral.signText, hds]
    cases n.negative
    · exact ⟨d, _, rfl, isMarkup_of_isDigit hdigit⟩
    · exact ⟨'-', _, rfl, rfl⟩
  refine .scalar htext hc (visible_numeral n) fun hcur hrest => ?_
  rw [scalarAt_numeral n hcur hrest, h]
  rfl

/-- The numeral of an integer. -/
def integerNumeral (n : Int) : Numeral where
  negative := decide (n < 0)
  whole := .ofNat n.natAbs
  places := none
  exponent := none
  noZero := by
    intro h
    rcases Nat.eq_zero_or_pos n.natAbs with hzero | hpos
    · simp only [Digits.ofNat, hzero]
      rfl
    · exact absurd h (Text.head?_ofNat hpos)

theorem toText_integerNumeral (n : Int) : (integerNumeral n).toText = Text.ofInt n := by
  cases n with
  | ofNat n => exact (List.append_nil _).trans (List.append_nil _)
  | negSucc n =>
      have hsign : (integerNumeral (.negSucc n)).signText = [CodePoint.ofChar '-'] :=
        if_pos (decide_eq_true (Int.negSucc_lt_zero n))
      rw [Numeral.toText, hsign]
      exact (List.append_nil _).trans (List.append_nil _)

theorem readNumeral_integer {n : Int} (h : ShortInteger n) :
    readNumeral (integerNumeral n) = .ok (.int n) := by
  have hlength : (integerNumeral n).whole.text.length = (Nat.toDigits 10 n.natAbs).length :=
    List.length_map _
  have hshort : ¬ Text.maxDigits < (integerNumeral n).whole.text.length := by
    rw [hlength]
    exact Nat.not_lt_of_le h
  have hvalue : Text.digitsValue (integerNumeral n).whole.text = n.natAbs :=
    Text.digitsValue_ofNat n.natAbs
  rw [readNumeral, if_pos ⟨rfl, rfl⟩, if_neg hshort, hvalue]
  by_cases hneg : n < 0
  · have hsign : (integerNumeral n).signText ≠ [] := by
      simp [Numeral.signText, integerNumeral, hneg]
    rw [if_neg hsign]
    congr 2
    omega
  · have hsign : (integerNumeral n).signText = [] := by
      simp [Numeral.signText, integerNumeral, hneg]
    rw [if_pos hsign]
    congr 2
    omega

/-- An integer that is short enough is written in every style. -/
theorem writeInt_eq (style : Style) {n : Int} (h : ShortInteger n) :
    writeInt style n = .ok (Text.ofInt n) := if_pos (Or.inr h)

/-- A log line has room for no other integers. -/
theorem shortInteger_of_writeInt {n : Int} {t : Text} (h : writeInt .logLine n = .ok t) :
    ShortInteger n := by
  by_contra hlong
  have hrefused : ¬ (Style.logLine.anyLength = true ∨ ShortInteger n) :=
    not_or.mpr ⟨Bool.false_ne_true, hlong⟩
  rw [writeInt, if_neg hrefused] at h
  exact absurd h nofun

/-- An integer that is short enough to be read spells itself. -/
theorem Spells.int (depth : Nat) {n : Int} (h : ShortInteger n) :
    Spells depth (Text.ofInt n) (.int n) := by
  rw [← toText_integerNumeral]
  exact .numeral depth (readNumeral_integer h)

/-- A double spells itself wherever it may be written: as a numeral, or as a word. -/
theorem Spells.float (depth : Nat) {style : Style} {x : Binary64} {t : Text}
    (h : writeFloat style x = .ok t) : Spells depth t (.float x) := by
  rw [writeFloat] at h
  split_ifs at h
  obtain rfl := Except.ok.inj h
  by_cases hfinite : x.isFinite = true
  · obtain ⟨n, htext, hfractional, hread⟩ := Binary64.exists_numeral floatLayout hfinite
    rw [← htext]
    apply Spells.numeral
    rw [readNumeral, if_neg hfractional, hread]
    rfl
  · rcases Binary64.nan_or_infinity hfinite with rfl | ⟨negative, rfl⟩
    · exact .word depth (by simp [words, Binary64.textIn, floatLayout])
    · rw [Binary64.textIn_infinity]
      cases negative
      · exact .word depth (by simp [words, floatLayout])
      · have hword : (Text.ofString "-Infinity", Value.float (.infinity true)) ∈ words := by
          simp [words]
        exact .word depth hword

end FacetSearch.Json
