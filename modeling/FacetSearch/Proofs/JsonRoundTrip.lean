/-
# FacetSearch.Proofs.JsonRoundTrip — what is written as JSON is read back.

A value that could have come out of a JSON text is written so that the reader finds it again: its
leaves spell themselves, the marks between its members are the ones that the reader looks for, and
an object keeps its members because their names are distinct.  On the way no control character is
written, so the text has one line, whatever stands in the value.
-/
import FacetSearch.Proofs.Construction
import FacetSearch.Proofs.Cutting
import FacetSearch.Proofs.JsonScalar

namespace FacetSearch.Json

/-! ## Arrays and objects -/

theorem separated_cons {c : CodePoint} (h : c = ',' ∨ c = ']' ∨ c = '\x7d') (rest : Text) :
    Separated (c :: rest) := by
  rintro d ⟨⟩
  exact h

/-- What is joined begins with the first text. -/
theorem exists_join_cons (sep t : Text) (ts : List Text) :
    ∃ tail, Text.join sep (t :: ts) = t ++ tail := by
  cases ts with
  | nil => exact ⟨[], (List.append_nil t).symm⟩
  | cons u ts => exact ⟨_, Text.join_cons_cons sep t u ts⟩

section Enclosed

variable (a b : Char) {inner rest : Text}

theorem visible_enclosed (hvisible : ∀ c ∈ inner, 0x20 ≤ c.val)
    (ha : 0x20 ≤ (CodePoint.ofChar a).val) (hb : 0x20 ≤ (CodePoint.ofChar b).val) :
    ∀ c ∈ [CodePoint.ofChar a] ++ inner ++ [CodePoint.ofChar b], 0x20 ≤ c.val := by
  simp only [List.forall_mem_append, List.forall_mem_singleton]
  exact ⟨⟨ha, hvisible⟩, hb⟩

theorem length_enclosed : ([CodePoint.ofChar a] ++ inner ++ [CodePoint.ofChar b]).length =
    1 + (inner.length + 1) := by
  rw [List.length_append, List.length_append, Nat.add_assoc]
  rfl

theorem rest_enclosed {cur : Cursor}
    (hcur : cur.rest = [CodePoint.ofChar a] ++ inner ++ [CodePoint.ofChar b] ++ rest) :
    cur.rest = [CodePoint.ofChar a] ++ (inner ++ CodePoint.ofChar b :: rest) := by
  rw [hcur, List.append_assoc, List.append_assoc]
  rfl

end Enclosed

section Nested

variable {style : Style} (hstyle : style.Regular) {depth fuel : Nat} {cur : Cursor} {rest : Text}

include hstyle in
/-- A comma after a value is seen, and passed with the blanks after it. -/
theorem at_comma (hcur : cur.rest = style.comma ++ rest) (hrest : Text.Ends Cursor.isSpace rest) :
    cur.skipSpace = cur ∧ cur.sees ']' = false ∧ cur.sees '\x7d' = false ∧ cur.sees ',' = true ∧
      (cur.advance 1).skipSpace = cur.advance style.comma.length := by
  obtain ⟨tail, htail⟩ := hstyle.comma.exists_cons rest
  have hmark : cur.rest = CodePoint.ofChar ',' :: tail := hcur.trans htail
  have hsees := Cursor.sees_cons hmark
  refine ⟨Cursor.skipSpace_cons hmark rfl, ?_, ?_, ?_, hstyle.comma.pass hcur hrest⟩
  · rw [hsees]; rfl
  · rw [hsees]; rfl
  · rw [hsees]; rfl

include hstyle in
theorem separated_comma (rest : Text) : Separated (style.comma ++ rest) := by
  obtain ⟨tail, htail⟩ := hstyle.comma.exists_cons rest
  rw [htail]
  exact separated_cons (.inl rfl) tail

/-- An element is read, and then what follows it. -/
theorem elementsAt_element {t : Text} {x : Value} (h : Spells depth t x)
    (hfuel : t.length ≤ fuel) (hcur : cur.rest = t ++ rest) (hrest : Separated rest) {next : Cursor}
    (hnext : (cur.advance t.length).skipSpace = next) :
    elementsAt (fuel + 1) depth cur =
      if next.sees ']' then .ok ([x], next.advance 1)
      else if next.sees ',' then
        (elementsAt fuel depth (next.advance 1).skipSpace).map fun p => (x :: p.1, p.2)
      else next.fault .commaExpected := by
  rw [elementsAt, h.value hfuel hcur hrest, ← hnext]

include hstyle

/-- Elements that are joined by commas are read up to and past the closing bracket. -/
theorem elementsAt_join {ts : List Text} {xs : List Value} (h : List.Forall₂ (Spells depth) ts xs)
    (hne : ts ≠ []) (hfuel : (Text.join style.comma ts).length < fuel)
    (hcur : cur.rest = Text.join style.comma ts ++ CodePoint.ofChar ']' :: rest) :
    elementsAt fuel depth cur =
      .ok (xs, cur.advance ((Text.join style.comma ts).length + 1)) := by
  induction h generalizing fuel cur with
  | nil => exact absurd rfl hne
  | @cons t x ts xs ht htail ih =>
      cases fuel with
      | zero => exact absurd hfuel (Nat.not_lt_zero _)
      | succ fuel =>
          cases htail with
          | nil =>
              have hcur' : cur.rest = t ++ CodePoint.ofChar ']' :: rest := hcur
              have hafter := Cursor.rest_advance hcur'
              rw [elementsAt_element ht (Nat.le_of_lt_succ hfuel) hcur'
                (separated_cons (.inr (.inl rfl)) rest) (Cursor.skipSpace_cons hafter rfl),
                Cursor.sees_cons hafter, if_pos (beq_self_eq_true _), Cursor.advance_advance]
              rfl
          | @cons t' x' ts xs ht' htail =>
              rw [Text.join_cons_cons] at hcur hfuel ⊢
              simp only [List.append_assoc, List.length_append] at hcur hfuel ⊢
              have hmark := hstyle.comma.length_pos
              have hafter := Cursor.rest_advance hcur
              have hbegins : Text.Ends Cursor.isSpace
                  (Text.join style.comma (t' :: ts) ++ CodePoint.ofChar ']' :: rest) := by
                obtain ⟨tail, htail⟩ := exists_join_cons style.comma t' ts
                rw [htail, List.append_assoc]
                exact ht'.ends _
              obtain ⟨hskip, hbracket, -, hcomma, hpass⟩ := at_comma hstyle hafter hbegins
              rw [elementsAt_element ht (by omega) hcur (separated_comma hstyle _) hskip, hbracket,
                hcomma, hpass, if_neg Bool.false_ne_true, if_pos rfl, ih (List.cons_ne_nil _ _)
                (by omega) (Cursor.rest_advance hafter), Cursor.advance_advance,
                Cursor.advance_advance]
              simp only [Except.map, Nat.add_assoc]

omit hstyle in
/-- A member is a name in quotes, the mark after a name, and a value. -/
def SpellsMember (style : Style) (depth : Nat) (t : Text) (member : Text × Value) : Prop :=
  ∃ u, t = quote member.1 ++ (style.colon ++ u) ∧ Spells depth u member.2

/-- A member is read, and then what follows it. -/
theorem membersAt_member {t : Text} {member : Text × Value} (h : SpellsMember style depth t member)
    (hfuel : t.length ≤ fuel) (hcur : cur.rest = t ++ rest) (hrest : Separated rest) {next : Cursor}
    (hnext : (cur.advance t.length).skipSpace = next) :
    membersAt (fuel + 1) depth cur =
      if next.sees '\x7d' then .ok ([(.text member.1, member.2)], next.advance 1)
      else if next.sees ',' then
        (membersAt fuel depth (next.advance 1).skipSpace).map
          fun p => ((.text member.1, member.2) :: p.1, p.2)
      else next.fault .commaExpected := by
  obtain ⟨u, rfl, hu⟩ := h
  simp only [List.append_assoc, List.length_append] at hcur hfuel hnext
  have hquote : cur.sees '"' = true := Cursor.sees_cons hcur '"'
  have hname := Cursor.rest_advance hcur
  obtain ⟨tail, htail⟩ := hstyle.colon.exists_cons (u ++ rest)
  have hmark := hname.trans htail
  have hcolon : (cur.advance (quote member.1).length).sees ':' = true := Cursor.sees_cons hmark ':'
  have hpass := hstyle.colon.pass hname (hu.ends rest)
  have hlength : u.length ≤ fuel := by omega
  have hvalue := hu.value hlength (Cursor.rest_advance hname) hrest
  have hnext' : (((cur.advance (quote member.1).length).advance style.colon.length).advance
      u.length).skipSpace = next := by
    rw [Cursor.advance_advance, Cursor.advance_advance]
    exact hnext
  rw [membersAt, if_pos hquote, textAt_quote hcur]
  simp only [Cursor.skipSpace_cons hmark rfl, hcolon, if_true, hpass, hvalue, hnext']

/-- Members that are joined by commas are read up to and past the closing brace. -/
theorem membersAt_join {ts : List Text} {r : Record}
    (h : List.Forall₂ (SpellsMember style depth) ts r) (hne : ts ≠ [])
    (hfuel : (Text.join style.comma ts).length < fuel)
    (hcur : cur.rest = Text.join style.comma ts ++ CodePoint.ofChar '\x7d' :: rest) :
    membersAt fuel depth cur =
      .ok (r.entries, cur.advance ((Text.join style.comma ts).length + 1)) := by
  induction h generalizing fuel cur with
  | nil => exact absurd rfl hne
  | @cons t member ts r ht htail ih =>
      cases fuel with
      | zero => exact absurd hfuel (Nat.not_lt_zero _)
      | succ fuel =>
          cases htail with
          | nil =>
              have hcur' : cur.rest = t ++ CodePoint.ofChar '\x7d' :: rest := hcur
              have hafter := Cursor.rest_advance hcur'
              rw [membersAt_member hstyle ht (Nat.le_of_lt_succ hfuel) hcur'
                (separated_cons (.inr (.inr rfl)) rest) (Cursor.skipSpace_cons hafter rfl),
                Cursor.sees_cons hafter, if_pos (beq_self_eq_true _), Cursor.advance_advance]
              rfl
          | @cons t' member' ts r ht' htail =>
              rw [Text.join_cons_cons] at hcur hfuel ⊢
              simp only [List.append_assoc, List.length_append] at hcur hfuel ⊢
              have hmark := hstyle.comma.length_pos
              have hafter := Cursor.rest_advance hcur
              have hbegins : Text.Ends Cursor.isSpace
                  (Text.join style.comma (t' :: ts) ++ CodePoint.ofChar '\x7d' :: rest) := by
                obtain ⟨tail, htail⟩ := exists_join_cons style.comma t' ts
                obtain ⟨u, rfl, -⟩ := ht'
                rw [htail]
                rintro c ⟨⟩
                rfl
              obtain ⟨hskip, -, hbrace, hcomma, hpass⟩ := at_comma hstyle hafter hbegins
              rw [membersAt_member hstyle ht (by omega) hcur (separated_comma hstyle _) hskip,
                hbrace, hcomma, hpass, if_neg Bool.false_ne_true, if_pos rfl,
                ih (List.cons_ne_nil _ _) (by omega) (Cursor.rest_advance hafter),
                Cursor.advance_advance, Cursor.advance_advance]
              simp only [Except.map, Nat.add_assoc]
              rfl

theorem visible_join {ts : List Text} (h : ∀ t ∈ ts, ∀ c ∈ t, 0x20 ≤ c.val) :
    ∀ c ∈ Text.join style.comma ts, 0x20 ≤ c.val := by
  have hmark := hstyle.comma.visible (by decide)
  induction ts with
  | nil => exact List.forall_mem_nil _
  | cons t ts ih =>
      obtain ⟨ht, hts⟩ := List.forall_mem_cons.mp h
      cases ts with
      | nil => exact ht
      | cons u ts =>
          rw [Text.join_cons_cons]
          simp only [List.forall_mem_append]
          exact ⟨ht, hmark, ih hts⟩

/-- The text of an array spells the array. -/
theorem Spells.list {ts : List Text} {xs : List Value} (h : List.Forall₂ (Spells depth) ts xs) :
    Spells (depth + 1) (Text.ofString "[" ++ Text.join style.comma ts ++ Text.ofString "]")
      (.list xs) where
  begins := ⟨'[', _, rfl, rfl, by decide⟩
  visible := by
    have hinner := visible_join hstyle (forall_mem_of_forall₂ h.flip fun _ _ h => h.visible)
    exact visible_enclosed '[' ']' hinner (by decide) (by decide)
  reads := by
    intro fuel cur rest hfuel hcur _
    have hopen := rest_enclosed '[' ']' hcur
    have hlength : (Text.ofString "[" ++ Text.join style.comma ts ++ Text.ofString "]").length =
        1 + ((Text.join style.comma ts).length + 1) := length_enclosed '[' ']'
    have hinside : (cur.advance 1).rest = _ := Cursor.rest_advance hopen
    have hsees := Cursor.sees_cons hopen
    rw [hlength] at hfuel ⊢
    rw [valueAt, hsees, hsees, if_neg (by decide), if_pos (beq_self_eq_true _),
      if_neg (Nat.succ_ne_zero depth), Nat.add_sub_cancel, ← Cursor.advance_advance]
    simp only
    cases h with
    | nil =>
        rw [Cursor.skipSpace_cons hinside rfl, Cursor.sees_cons hinside,
          if_pos (beq_self_eq_true _)]
        rfl
    | @cons t x ts xs ht htail =>
        obtain ⟨tail, hjoin⟩ := exists_join_cons style.comma t ts
        obtain ⟨c, tail', rfl, hspace, hbracket⟩ := ht.begins
        have hfirst := hinside.trans (by rw [hjoin, List.append_assoc, List.cons_append])
        rw [Cursor.skipSpace_cons hfirst hspace, Cursor.sees_cons hfirst,
          beq_eq_false_iff_ne.mpr hbracket, if_neg Bool.false_ne_true,
          elementsAt_join hstyle (.cons ht htail) (List.cons_ne_nil _ _) (by omega) hinside]
        rfl

/-- The text of an object spells the object, if its names are distinct. -/
theorem Spells.dict {ts : List Text} {r : Record}
    (h : List.Forall₂ (SpellsMember style depth) ts r) (distinct : (r.map Prod.fst).Nodup) :
    Spells (depth + 1) (Text.ofString "\x7b" ++ Text.join style.comma ts ++ Text.ofString "\x7d")
      (.dict r.entries) where
  begins := ⟨'\x7b', _, rfl, rfl, by decide⟩
  visible := by
    have hmember : ∀ member t, SpellsMember style depth t member → ∀ c ∈ t, 0x20 ≤ c.val := by
      rintro member t ⟨u, rfl, hu⟩
      simp only [List.forall_mem_append]
      exact ⟨control_quote _, hstyle.colon.visible (by decide), hu.visible⟩
    have hinner := visible_join hstyle (forall_mem_of_forall₂ h.flip hmember)
    exact visible_enclosed '\x7b' '\x7d' hinner (by decide) (by decide)
  reads := by
    intro fuel cur rest hfuel hcur _
    have hopen := rest_enclosed '\x7b' '\x7d' hcur
    have hlength : (Text.ofString "\x7b" ++ Text.join style.comma ts ++
        Text.ofString "\x7d").length = 1 + ((Text.join style.comma ts).length + 1) :=
      length_enclosed '\x7b' '\x7d'
    have hinside : (cur.advance 1).rest = _ := Cursor.rest_advance hopen
    have hsees := Cursor.sees_cons hopen
    rw [hlength] at hfuel ⊢
    rw [valueAt, hsees, hsees, hsees, if_neg (by decide), if_neg (by decide),
      if_pos (beq_self_eq_true _), if_neg (Nat.succ_ne_zero depth), Nat.add_sub_cancel,
      ← Cursor.advance_advance]
    simp only
    cases h with
    | nil =>
        rw [Cursor.skipSpace_cons hinside rfl, Cursor.sees_cons hinside,
          if_pos (beq_self_eq_true _)]
        rfl
    | @cons t member ts r ht htail =>
        obtain ⟨tail, hjoin⟩ := exists_join_cons style.comma t ts
        obtain ⟨u, htext, -⟩ := id ht
        have hfirst := hinside.trans (by
          rw [hjoin, htext, quote_eq, List.append_assoc, List.append_assoc, List.cons_append])
        rw [Cursor.skipSpace_cons hfirst rfl, Cursor.sees_cons hfirst, if_neg (by decide),
          membersAt_join hstyle (.cons ht htail) (List.cons_ne_nil _ _) (by omega) hinside]
        show Except.ok (Value.dict (Entries.ofPairs (Record.entries (member :: r))), _) = _
        rw [Entries.ofPairs_entries, collectNamed_eq_self distinct, Cursor.advance_advance]

end Nested

/-! ## Values -/

section Values

variable {style : Style}

theorem forall₂_of_writeElements {R : Text → Value → Prop} {xs : List Value} {ts : List Text}
    (h : writeElements style xs = .ok ts)
    (hR : ∀ x ∈ xs, ∀ t, write style x = .ok t → R t x) : List.Forall₂ R ts xs := by
  induction xs generalizing ts with
  | nil =>
      rw [writeElements] at h
      obtain rfl := Except.ok.inj h
      exact .nil
  | cons x xs ih =>
      rw [writeElements] at h
      rw [List.forall_mem_cons] at hR
      cases hx : write style x with
      | error e => exact absurd (hx ▸ h) (by simp)
      | ok t =>
          simp only [hx] at h
          obtain ⟨rest, hrest, rfl⟩ := Checked.map_eq_ok_iff.mp h
          exact .cons (hR.1 t hx) (ih hrest hR.2)

theorem forall₂_of_writeMembers {R : Text → Text × Value → Prop} {r : Record} {ts : List Text}
    (h : writeMembers style r.entries = .ok ts)
    (hR : ∀ member ∈ r, ∀ t, write style member.2 = .ok t →
      R (quote member.1 ++ (style.colon ++ t)) member) : List.Forall₂ R ts r := by
  induction r generalizing ts with
  | nil =>
      rw [Record.entries, List.map_nil, writeMembers] at h
      obtain rfl := Except.ok.inj h
      exact .nil
  | cons member rest ih =>
      have hcons : writeMembers style ((.text member.1, member.2) :: Record.entries rest) =
          .ok ts := h
      rw [writeMembers, writeKey] at hcons
      rw [List.forall_mem_cons] at hR
      cases hv : write style member.2 with
      | error e => exact absurd (hv ▸ hcons) (by simp)
      | ok t =>
          simp only [hv] at hcons
          obtain ⟨ts', hrest, rfl⟩ := Checked.map_eq_ok_iff.mp hcons
          rw [List.append_assoc]
          exact .cons (hR.1 t hv) (ih hrest hR.2)

theorem exists_writeElements {xs : List Value} (h : ∀ x ∈ xs, ∃ t, write style x = .ok t) :
    ∃ ts, writeElements style xs = .ok ts := by
  induction xs with
  | nil => exact ⟨[], by rw [writeElements]⟩
  | cons x xs ih =>
      obtain ⟨⟨t, ht⟩, hxs⟩ := List.forall_mem_cons.mp h
      obtain ⟨ts, hts⟩ := ih hxs
      refine ⟨t :: ts, ?_⟩
      rw [writeElements, ht, hts]
      rfl

theorem exists_writeMembers {r : Record} (h : ∀ member ∈ r, ∃ t, write style member.2 = .ok t) :
    ∃ ts, writeMembers style r.entries = .ok ts := by
  induction r with
  | nil => exact ⟨[], by rw [Record.entries, List.map_nil, writeMembers]⟩
  | cons member rest ih =>
      obtain ⟨⟨t, ht⟩, hrest⟩ := List.forall_mem_cons.mp h
      obtain ⟨ts, hts⟩ := ih hrest
      refine ⟨(quote member.1 ++ style.colon ++ t) :: ts, ?_⟩
      show writeMembers style ((.text member.1, member.2) :: Record.entries rest) = _
      rw [writeMembers, writeKey, ht, hts]
      rfl

/-- A style that has a word for every number writes every JSON value whose integers are short. -/
theorem exists_write (hwords : style.bareWords = true) {leaves : JsonLeaves}
    (hshort : ∀ n, leaves.integer n → ShortInteger n) {v : Value} (h : v.IsJson leaves) :
    ∃ t, write style v = .ok t := by
  induction h with
  | null => exact ⟨"null", by rw [write]⟩
  | bool b => exact ⟨if b then "true" else "false", by rw [write]⟩
  | @int n admitted =>
      exact ⟨Text.ofInt n, by rw [write, writeInt_eq style (hshort n admitted)]⟩
  | @float x _ => exact ⟨x.textIn floatLayout, by rw [write, writeFloat, hwords, Bool.or_true]; rfl⟩
  | @text t _ => exact ⟨quote t, by rw [write]⟩
  | list _ ih =>
      obtain ⟨ts, hts⟩ := exists_writeElements ih
      exact ⟨_, by rw [write, writeArray, hts]; rfl⟩
  | dict _ _ _ ih =>
      obtain ⟨ts, hts⟩ := exists_writeMembers ih
      exact ⟨_, by rw [write, hts]; rfl⟩

theorem nesting_le_nestingOfAll {xs : List Value} : ∀ x ∈ xs, nesting x ≤ nestingOfAll xs := by
  induction xs with
  | nil => exact List.forall_mem_nil _
  | cons x xs ih =>
      refine List.forall_mem_cons.mpr ⟨Nat.le_max_left _ _, fun y hy => ?_⟩
      exact Nat.le_trans (ih y hy) (Nat.le_max_right _ _)

variable (hstyle : style.Regular)

include hstyle

/-- **The text that is written for a value spells the value**, if it is one that a JSON text may
turn out to be. -/
theorem spells_of_write {v : Value} (h : v.IsRead) {depth : Nat} (hdepth : nesting v ≤ depth)
    {t : Text} (hwrite : write style v = .ok t) : Spells depth t v := by
  induction h generalizing depth t with
  | null =>
      rw [write] at hwrite
      obtain rfl := Except.ok.inj hwrite
      exact .word depth (by simp [words])
  | bool b =>
      rw [write] at hwrite
      obtain rfl := Except.ok.inj hwrite
      cases b <;> exact .word depth (by simp [words])
  | int admitted =>
      rw [write, writeInt_eq style admitted] at hwrite
      obtain rfl := Except.ok.inj hwrite
      exact .int depth admitted
  | float _ =>
      rw [write] at hwrite
      exact .float depth hwrite
  | @text t' _ =>
      rw [write] at hwrite
      obtain rfl := Except.ok.inj hwrite
      exact .text depth t'
  | @list xs _ ih =>
      obtain ⟨depth, rfl⟩ : ∃ d, depth = d + 1 := ⟨depth - 1, by rw [nesting] at hdepth; omega⟩
      rw [write, writeArray] at hwrite
      obtain ⟨ts, hts, rfl⟩ := Checked.map_eq_ok_iff.mp hwrite
      apply Spells.list hstyle
      apply forall₂_of_writeElements hts
      intro x hx t ht
      have hshallow := nesting_le_nestingOfAll x hx
      exact ih x hx (by rw [nesting] at hdepth; omega) ht
  | @dict r distinct _ _ ih =>
      obtain ⟨depth, rfl⟩ : ∃ d, depth = d + 1 := ⟨depth - 1, by rw [nesting] at hdepth; omega⟩
      rw [write] at hwrite
      obtain ⟨ts, hts, rfl⟩ := Checked.map_eq_ok_iff.mp hwrite
      refine Spells.dict hstyle ?_ distinct
      apply forall₂_of_writeMembers hts
      intro member hmember t ht
      have hshallow := Value.Fits.nesting_le_nestingOfEntries member hmember
      exact ⟨t, rfl, ih member hmember (by rw [nesting] at hdepth; omega) ht⟩

/-- **What is written is read back.** -/
theorem read_of_write {v : Value} (h : v.IsRead) {depth : Nat} (hdepth : nesting v ≤ depth)
    {t : Text} (hwrite : write style v = .ok t) : read depth t = .ok v := by
  have hspells := spells_of_write hstyle h hdepth hwrite
  have hstart : Cursor.skipSpace ⟨t, 0⟩ = ⟨t, 0⟩ :=
    Cursor.skipSpace_self (by simpa using hspells.ends [])
  have hcur : (⟨t, 0⟩ : Cursor).rest = t ++ [] := (List.append_nil t).symm
  have hend := Cursor.rest_advance hcur
  have hrest : Separated [] := by rintro c ⟨⟩
  have hskip : (Cursor.advance ⟨t, 0⟩ t.length).skipSpace = Cursor.advance ⟨t, 0⟩ t.length := by
    apply Cursor.skipSpace_self
    rw [hend]
    rintro c ⟨⟩
  rw [read, hstart, hspells.value (by omega) hcur hrest]
  simp only [hskip, hend, if_true]

/-- **What is written has one line**: there is no control character in it. -/
theorem visible_of_write {v : Value} (h : v.IsRead) {t : Text} (hwrite : write style v = .ok t) :
    ∀ c ∈ t, 0x20 ≤ c.val :=
  (spells_of_write hstyle h (Nat.le_refl _) hwrite).visible

end Values

end FacetSearch.Json

namespace FacetSearch.HttpResponse

/-- **The body of a response is read as its content**, and it has one line. -/
theorem read_of_jsonBody {content : Value} (h : content.IsRead) {body : Text}
    (hbody : jsonBody content = .ok body) :
    Json.read (Json.nesting content) body = .ok content ∧ ∀ c ∈ body, 0x20 ≤ c.val := by
  obtain ⟨hwrite, -⟩ := jsonBody_eq_ok hbody
  exact ⟨Json.read_of_write Json.Style.regular_body h (Nat.le_refl _) hwrite,
    Json.visible_of_write Json.Style.regular_body h hwrite⟩

end FacetSearch.HttpResponse
