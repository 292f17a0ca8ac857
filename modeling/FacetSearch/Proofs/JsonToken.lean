/-
# FacetSearch.Proofs.JsonToken — a JSON text and a JSON number are read as they are written.

The writer escapes what would end a text too early and every control character, each in a form of
its own, and the reader undoes exactly these escapes.  So a written text is read back code point by
code point, up to and not beyond its closing quote, whatever code points it has.  A number ends
where something follows that belongs to no number.
-/
import FacetSearch.Json.Reader
import FacetSearch.Json.Writer
import FacetSearch.Proofs.JsonValue
import FacetSearch.Proofs.Numeral

namespace FacetSearch.Json

/-! ## Texts -/

theorem quote_eq (t : Text) :
    quote t = CodePoint.ofChar '"' :: (t.flatMap escape ++ [CodePoint.ofChar '"']) := rfl

/-- Code points that an escape has taken are passed over. -/
theorem textFrom_skip {start position : Nat} (taken rest : Text) :
    textFrom start taken.length position (taken ++ rest) =
      textFrom start 0 (position + taken.length) rest := by
  induction taken generalizing position with
  | nil => rfl
  | cons c taken ih =>
      rw [List.length_cons, List.cons_append, textFrom, ih, Nat.add_right_comm, Nat.add_assoc]

/-- How an escape ends: it stands for a code point and takes a number of code points after its
backslash. -/
theorem textFrom_escaped {start position : Nat} {c : CodePoint} {taken rest : Text}
    (h : escapeAt start position (taken ++ rest) = .ok (c, taken.length)) :
    textFrom start 0 position ('\\' :: (taken ++ rest)) =
      (textFrom start 0 (position + (taken.length + 1)) rest).map fun p => (c :: p.1, p.2) := by
  have hquote : (CodePoint.ofChar '\\') ≠ ('"' : CodePoint) := by decide
  rw [textFrom, if_neg hquote, if_pos rfl, h]
  show (textFrom start taken.length (position + 1) (taken ++ rest)).map _ = _
  rw [textFrom_skip, Nat.add_assoc, Nat.add_comm 1]

/-- The escapes of one letter. -/
theorem escapeAt_letter {start position : Nat} {letter c : CodePoint} {rest : Text}
    (hne : letter ≠ ('u' : CodePoint)) (h : simpleEscape? letter = some c) :
    escapeAt start position ([letter] ++ rest) = .ok (c, 1) := by
  rw [List.singleton_append, escapeAt, if_neg hne, h]

/-- Four hexadecimal digits of a control character. -/
theorem hexQuad?_ofHex : ∀ n < 0x20, hexQuad? (Text.ofHex n 4) = some n := by decide +kernel

theorem visible_hexDigit {n : Nat} (h : n < 16) : 0x20 ≤ (CodePoint.hexDigit n).val := by
  unfold CodePoint.hexDigit
  split_ifs
  · show 0x20 ≤ (0x30 + n) % 0x110000
    omega
  · show 0x20 ≤ (0x57 + n) % 0x110000
    omega

theorem visible_ofHex (n width : Nat) : ∀ d ∈ Text.ofHex n width, 0x20 ≤ d.val := by
  induction width generalizing n with
  | zero => exact List.forall_mem_nil _
  | succ width ih =>
      rw [Text.ofHex, List.forall_mem_append, List.forall_mem_singleton]
      exact ⟨ih (n / 16), visible_hexDigit (Nat.mod_lt n (by decide))⟩

/-- A control character is escaped by its number; at least the closing quote follows. -/
theorem escapeAt_hex {start position : Nat} {c : CodePoint} (hc : c.val < 0x20) {rest : Text}
    (hrest : rest ≠ []) :
    escapeAt start position ((CodePoint.ofChar 'u' :: Text.ofHex c.val 4) ++ rest) =
      .ok (c, 5) := by
  have hlength : (Text.ofHex c.val 4).length = 4 := rfl
  have htake : (Text.ofHex c.val 4 ++ rest).take 4 = Text.ofHex c.val 4 := List.take_left' hlength
  have hfive : ((Text.ofHex c.val 4 ++ rest).take 5).length = 5 := by
    have hpos : 0 < rest.length := List.length_pos_iff.mpr hrest
    rw [List.length_take, List.length_append, hlength]
    omega
  have hlow : ¬ (0xD800 ≤ c.val ∧ c.val ≤ 0xDBFF ∧
      ((Text.ofHex c.val 4 ++ rest).take 11).length = 11 ∧
      ((Text.ofHex c.val 4 ++ rest).drop 4).take 2 = Text.ofString "\\u") := by omega
  have hpoint : CodePoint.ofNat c.val = c := Fin.ofNat_val_eq_self c
  rw [List.cons_append, escapeAt, if_pos rfl, if_pos hfive, htake, hexQuad?_ofHex c.val hc]
  simp only [if_neg hlow, hpoint]

/-- The three ways to write a code point. -/
inductive Spelling (c : CodePoint) : Prop where
  /-- A backslash and a letter. -/
  | letter (l : CodePoint) (text : escape c = [CodePoint.ofChar '\\', l])
      (hne : l ≠ ('u' : CodePoint)) (visible : 0x20 ≤ l.val) (means : simpleEscape? l = some c)
  /-- A backslash and the number of a control character. -/
  | number (text : escape c = CodePoint.ofChar '\\' :: CodePoint.ofChar 'u' :: Text.ofHex c.val 4)
      (control : c.val < 0x20)
  /-- The code point itself. -/
  | itself (text : escape c = [c]) (noQuote : c ≠ ('"' : CodePoint))
      (noBackslash : c ≠ ('\\' : CodePoint)) (noControl : 0x20 ≤ c.val)

theorem spelling_control {n : Nat} (h : n < 0x20) : Spelling (.ofNat n) := by
  interval_cases n <;>
    first
    | exact .number rfl (by decide)
    | exact .letter 'n' rfl (by decide) (by decide) rfl
    | exact .letter 'r' rfl (by decide) (by decide) rfl
    | exact .letter 't' rfl (by decide) (by decide) rfl
    | exact .letter 'b' rfl (by decide) (by decide) rfl
    | exact .letter 'f' rfl (by decide) (by decide) rfl

theorem spelling (c : CodePoint) : Spelling c := by
  by_cases hquote : c = ('"' : CodePoint)
  · rw [hquote]
    exact .letter '"' rfl (by decide) (by decide) rfl
  by_cases hback : c = ('\\' : CodePoint)
  · rw [hback]
    exact .letter '\\' rfl (by decide) (by decide) rfl
  by_cases hcontrol : c.val < 0x20
  · have hpoint : CodePoint.ofNat c.val = c := Fin.ofNat_val_eq_self c
    rw [← hpoint]
    exact spelling_control hcontrol
  · refine .itself ?_ hquote hback (by omega)
    have hne {n : Nat} (hn : n < 0x20) : c.val ≠ n := by omega
    simp only [escape, hquote, hback, hcontrol, hne, if_false, Nat.reduceLT]

/-- A code point is read back from however it is written. -/
theorem textFrom_escape (start position : Nat) (c : CodePoint) {rest : Text} (hrest : rest ≠ []) :
    textFrom start 0 position (escape c ++ rest) =
      (textFrom start 0 (position + (escape c).length) rest).map fun p => (c :: p.1, p.2) := by
  cases spelling c with
  | letter l text hne visible means =>
      rw [text]
      exact textFrom_escaped (escapeAt_letter hne means)
  | number text control =>
      rw [text]
      exact textFrom_escaped (escapeAt_hex control hrest)
  | itself text noQuote noBackslash noControl =>
      have hcontrol : ¬ c.val < 0x20 := by omega
      rw [text, List.singleton_append, textFrom, if_neg noQuote, if_neg noBackslash,
        if_neg hcontrol]
      rfl

/-- **A written text is read back**, up to its closing quote. -/
theorem textFrom_written (start position : Nat) (t rest : Text) :
    textFrom start 0 position (t.flatMap escape ++ CodePoint.ofChar '"' :: rest) =
      .ok (t, ⟨rest, position + (t.flatMap escape).length + 1⟩) := by
  induction t generalizing position with
  | nil => rw [List.flatMap_nil, List.nil_append, textFrom, if_pos rfl]; rfl
  | cons c t ih =>
      have hrest : t.flatMap escape ++ CodePoint.ofChar '"' :: rest ≠ [] := by simp
      rw [List.flatMap_cons, List.append_assoc, textFrom_escape start position c hrest, ih,
        List.length_append, ← Nat.add_assoc]
      rfl

theorem textAt_quote {cur : Cursor} {t rest : Text} (h : cur.rest = quote t ++ rest) :
    textAt cur = .ok (t, cur.advance (quote t).length) := by
  have hinside : cur.rest.drop 1 = t.flatMap escape ++ CodePoint.ofChar '"' :: rest := by
    simp [h, quote_eq]
  have hlength : (quote t).length = 1 + (t.flatMap escape).length + 1 := by
    simp only [quote_eq, List.length_cons, List.length_append, List.length_nil]
    omega
  rw [textAt, hinside, textFrom_written, Cursor.advance, h, List.drop_left, hlength,
    Nat.add_assoc, Nat.add_assoc, Nat.add_assoc]

/-- A written text has no control characters. -/
theorem control_quote (t : Text) : ∀ c ∈ quote t, 0x20 ≤ c.val := by
  have hescape : ∀ c, ∀ d ∈ escape c, 0x20 ≤ d.val := by
    intro c
    cases spelling c with
    | letter l text hne visible means =>
        rw [text, List.forall_mem_cons, List.forall_mem_singleton]
        exact ⟨by decide, visible⟩
    | number text control =>
        rw [text, List.forall_mem_cons, List.forall_mem_cons]
        exact ⟨by decide, by decide, visible_ofHex c.val 4⟩
    | itself text noQuote noBackslash noControl =>
        rw [text]
        exact List.forall_mem_singleton.mpr noControl
  rw [quote_eq, List.forall_mem_cons, List.forall_mem_append]
  refine ⟨by decide, ?_, List.forall_mem_singleton.mpr (by decide)⟩
  intro d hd
  obtain ⟨c, -, hc⟩ := List.mem_flatMap.mp hd
  exact hescape c d hc

/-! ## Numbers -/

/-- What follows a value: nothing, a comma, or the end of an array or of an object. -/
def Separated (rest : Text) : Prop :=
  ∀ c ∈ rest.head?, c = (',' : CodePoint) ∨ c = (']' : CodePoint) ∨ c = ('\x7d' : CodePoint)

theorem Separated.ends {rest : Text} (h : Separated rest) {p : CodePoint → Bool}
    (hcomma : p ',' = false) (hbracket : p ']' = false) (hbrace : p '\x7d' = false) :
    Text.Ends p rest := by
  intro c hc
  rcases h c hc with rfl | rfl | rfl
  · exact hcomma
  · exact hbracket
  · exact hbrace

theorem wholeDigits_append (n : Numeral) {tail : Text} (htail : Text.Ends CodePoint.isDigit tail) :
    wholeDigits (n.whole.text ++ tail) = n.whole.text := by
  rw [wholeDigits, Text.takeWhile_append_of_ends n.whole.digits htail]
  split_ifs with hzero
  · rw [n.noZero hzero]
    rfl
  · rfl

theorem fractionDigits_append (n : Numeral) {rest : Text} (hrest : Separated rest) :
    fractionDigits (n.fractionText ++ (n.exponentText ++ rest)) = n.fractionText := by
  have hdigit : Text.Ends CodePoint.isDigit (n.exponentText ++ rest) :=
    n.ends_exponent rfl (hrest.ends rfl rfl rfl)
  have hpoint : Text.Ends (· = CodePoint.ofChar '.') (n.exponentText ++ rest) :=
    n.ends_exponent rfl (hrest.ends rfl rfl rfl)
  unfold Numeral.fractionText
  cases n.places with
  | none =>
      have hhead : (n.exponentText ++ rest).head? ≠ some (CodePoint.ofChar '.') :=
        fun h => by simpa using hpoint _ h
      rw [List.nil_append, fractionDigits, if_neg hhead]
  | some ds =>
      have hdigits : (ds.text ++ (n.exponentText ++ rest)).takeWhile CodePoint.isDigit = ds.text :=
        Text.takeWhile_append_of_ends ds.digits hdigit
      simp only [List.cons_append, fractionDigits, List.head?_cons, if_true, List.drop_one,
        List.tail_cons, hdigits, if_neg ds.nonempty]

theorem exponentDigits_append (n : Numeral) {rest : Text} (hrest : Separated rest) :
    exponentDigits (n.exponentText ++ rest) = n.exponentText := by
  have hdigit : Text.Ends CodePoint.isDigit rest := hrest.ends rfl rfl rfl
  unfold Numeral.exponentText
  cases n.exponent with
  | none =>
      cases rest with
      | nil => rfl
      | cons c rest =>
          have hmark : c.toLower ≠ ('e' : CodePoint) := by
            rcases hrest c rfl with rfl | rfl | rfl <;> decide
          rw [List.nil_append, exponentDigits, if_neg hmark]
  | some exponent =>
      obtain ⟨negative, ds⟩ := exponent
      have hdigits : (ds.text ++ rest).takeWhile CodePoint.isDigit = ds.text :=
        Text.takeWhile_append_of_ends ds.digits hdigit
      have hmark : (CodePoint.ofChar 'e').toLower = ('e' : CodePoint) := by decide
      cases negative <;> simp [exponentDigits, hmark, hdigits, ds.nonempty]

/-- What a numeral is read as: an integer if it has neither places nor an exponent. -/
def readNumeral (n : Numeral) : Except ReadError Value :=
  if n.fractionText = [] ∧ n.exponentText = [] then
    if Text.maxDigits < n.whole.text.length then .error .integerTooLong
    else .ok (.int (if n.signText = [] then (Text.digitsValue n.whole.text : Int)
      else -(Text.digitsValue n.whole.text : Int)))
  else .ok (.float ((Binary64.ofText? n.toText).getD .nan))

theorem sign_append (n : Numeral) (tail : Text) :
    ((n.signText ++ (n.whole.text ++ tail)).take 1).takeWhile (· = ('-' : CodePoint)) =
      n.signText := by
  unfold Numeral.signText
  cases n.negative with
  | true => rfl
  | false =>
      obtain ⟨d, ds, hds, hdigit⟩ := n.exists_digit
      have hne : d ≠ ('-' : CodePoint) := by
        rintro rfl
        exact absurd hdigit (by decide)
      simp [hds, hne]

/-- **A numeral is read as a whole.** -/
theorem numberAt_toText (n : Numeral) {cur : Cursor} {rest : Text} (h : cur.rest = n.toText ++ rest)
    (hrest : Separated rest) :
    numberAt cur = (readNumeral n).map fun v => (v, cur.advance n.toText.length) := by
  have hexponent := exponentDigits_append n hrest
  have hfraction := fractionDigits_append n hrest
  -- the text with its parts bracketed to the right, as the reader takes them off
  have hsplit : cur.rest =
      n.signText ++ (n.whole.text ++ (n.fractionText ++ (n.exponentText ++ rest))) := by
    simp only [h, Numeral.toText, List.append_assoc]
  have hsign : (cur.rest.take 1).takeWhile (· = CodePoint.ofChar '-') = n.signText := by
    rw [hsplit, sign_append]
  have hwhole : wholeDigits (cur.rest.drop n.signText.length) = n.whole.text := by
    rw [hsplit, List.drop_left,
      wholeDigits_append n (n.ends_fraction rfl rfl (hrest.ends rfl rfl rfl))]
  have hhead : cur.rest.drop (n.signText ++ n.whole.text).length =
      n.fractionText ++ (n.exponentText ++ rest) := by
    rw [hsplit, ← List.append_assoc, List.drop_left]
  have htail : cur.rest.drop ((n.signText ++ n.whole.text).length + n.fractionText.length) =
      n.exponentText ++ rest := by
    rw [← List.drop_drop, hhead, List.drop_left]
  have hall : n.signText ++ n.whole.text ++ n.fractionText ++ n.exponentText = n.toText := rfl
  simp only [numberAt, hsign, hwhole, if_neg n.whole.nonempty, hhead, htail, hfraction, hexponent,
    hall, readNumeral]
  split_ifs <;> rfl

end FacetSearch.Json
