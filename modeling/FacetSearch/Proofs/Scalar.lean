/-
# FacetSearch.Proofs.Scalar — texts without surrogates.

UTF-8 can spell a text exactly if the text holds no surrogate.  Everything that is written from
characters or digits is such a text, and so is whatever is decoded from UTF-8, strictly or
leniently, and whatever is put together from such texts.
-/
import FacetSearch.Http.Target
import FacetSearch.Json.Writer
import Mathlib.Algebra.Group.Nat.Defs
import Mathlib.Data.List.Basic

namespace FacetSearch

/-! ## Code points -/

namespace CodePoint

theorem isSurrogate_eq_false_iff {c : CodePoint} :
    c.isSurrogate = false ↔ c.val < 0xD800 ∨ 0xDFFF < c.val := by
  simp only [isSurrogate, Bool.and_eq_false_iff, decide_eq_false_iff_not]
  omega

theorem isSurrogate_ofNat {n : Nat} (hn : n < 0x110000) (h : n < 0xD800 ∨ 0xDFFF < n) :
    (ofNat n).isSurrogate = false := by
  have hval : (ofNat n).val = n := Nat.mod_eq_of_lt hn
  rw [isSurrogate_eq_false_iff, hval]
  exact h

/-- A character is never a surrogate. -/
theorem isSurrogate_ofChar (c : Char) : (ofChar c).isSurrogate = false := by
  rcases c.valid with h | h
  · have hlt : c.toNat < 0xD800 := h
    exact isSurrogate_ofNat (by omega) (Or.inl hlt)
  · have hbounds : 0xDFFF < c.toNat ∧ c.toNat < 0x110000 := h
    exact isSurrogate_ofNat hbounds.2 (Or.inr hbounds.1)

end CodePoint

namespace Text

theorem isScalar_iff {t : Text} : t.isScalar = true ↔ ∀ c ∈ t, c.isSurrogate = false := by
  simp [isScalar]

@[simp] theorem isScalar_nil : isScalar [] = true := rfl

@[simp] theorem isScalar_cons {c : CodePoint} {t : Text} :
    isScalar (c :: t) = true ↔ c.isSurrogate = false ∧ isScalar t = true := by
  simp [isScalar]

@[simp] theorem isScalar_append {s t : Text} :
    isScalar (s ++ t) = true ↔ isScalar s = true ∧ isScalar t = true := by
  simp [isScalar]

/-! ## Texts written from characters and digits -/

theorem isScalar_map_ofChar (cs : List Char) : isScalar (cs.map CodePoint.ofChar) = true :=
  isScalar_iff.mpr (List.forall_mem_map.mpr fun c _ => CodePoint.isSurrogate_ofChar c)

@[simp] theorem isScalar_ofString (s : String) : isScalar (ofString s) = true :=
  isScalar_map_ofChar _

@[simp] theorem isScalar_ofNat (n : Nat) : isScalar (ofNat n) = true := isScalar_map_ofChar _

@[simp] theorem isScalar_ofInt (n : Int) : isScalar (ofInt n) = true := by
  cases n with
  | ofNat n => exact isScalar_ofNat n
  | negSucc n => simp [ofInt, CodePoint.isSurrogate_ofChar]

theorem isScalar_of_subset {s t : Text} (h : t.isScalar = true) (hsub : ∀ c ∈ s, c ∈ t) :
    s.isScalar = true :=
  isScalar_iff.mpr fun c hc => isScalar_iff.mp h c (hsub c hc)

theorem isScalar_take {t : Text} (h : t.isScalar = true) (n : Nat) :
    isScalar (t.take n) = true :=
  isScalar_of_subset h fun _ => List.mem_of_mem_take

theorem isScalar_drop {t : Text} (h : t.isScalar = true) (n : Nat) :
    isScalar (t.drop n) = true :=
  isScalar_of_subset h fun _ => List.mem_of_mem_drop

theorem isScalar_replicate {c : CodePoint} (h : c.isSurrogate = false) (n : Nat) :
    isScalar (List.replicate n c) = true :=
  isScalar_iff.mpr fun _ hd => (List.eq_of_mem_replicate hd) ▸ h

theorem isScalar_zeros (n : Nat) :
    isScalar (List.replicate n (CodePoint.ofChar '0')) = true :=
  isScalar_replicate (CodePoint.isSurrogate_ofChar '0') n

theorem isScalar_join {sep : Text} (hsep : sep.isScalar = true) {ts : List Text}
    (h : ∀ t ∈ ts, t.isScalar = true) : isScalar (join sep ts) = true := by
  induction ts with
  | nil => rfl
  | cons t rest ih =>
      rw [List.forall_mem_cons] at h
      cases rest with
      | nil => exact h.1
      | cons u rest => simp [join, h.1, hsep, ih h.2]

/-- What is joined without a surrogate had none. -/
theorem isScalar_of_join {sep : Text} {ts : List Text} (h : isScalar (join sep ts) = true) :
    ∀ t ∈ ts, t.isScalar = true := by
  induction ts with
  | nil => exact nofun
  | cons t rest ih =>
      cases rest with
      | nil => exact List.forall_mem_singleton.mpr h
      | cons u rest =>
          simp only [join, isScalar_append] at h
          exact List.forall_mem_cons.mpr ⟨h.1.1, ih h.2⟩

theorem isScalar_flatMap {t : Text} {f : CodePoint → Text}
    (h : ∀ c ∈ t, isScalar (f c) = true) : isScalar (t.flatMap f) = true := by
  rw [isScalar_iff]
  intro c hc
  obtain ⟨d, hd, hcd⟩ := List.mem_flatMap.mp hc
  exact isScalar_iff.mp (h d hd) c hcd

end Text

/-! ## Numbers -/

namespace Binary64

open Text

theorem isScalar_positional {ds : Text} (h : ds.isScalar = true) (before : Int) :
    (positional ds before).isScalar = true := by
  simp only [positional]
  split_ifs <;> simp [padRight, h, isScalar_zeros, isScalar_take h, isScalar_drop h]

theorem isScalar_scaled {ds : Text} (h : ds.isScalar = true) (e : Int) :
    (scaled ds e).isScalar = true := by
  have hexponent : (exponentText e).isScalar = true := by
    unfold exponentText
    split_ifs <;> simp [padLeft, isScalar_zeros]
  unfold scaled
  rcases ds with _ | ⟨d, _ | ⟨d', rest⟩⟩
  · simp [hexponent]
  · simpa [hexponent] using h
  · have hpoint := CodePoint.isSurrogate_ofChar '.'
    simpa [hexponent, hpoint] using h

/-- The text of a number in a layout whose words hold no surrogate. -/
theorem isScalar_textIn {layout : FloatLayout} (hinfinity : layout.infinity.isScalar = true)
    (hnan : layout.nan.isScalar = true) (x : Binary64) : (x.textIn layout).isScalar = true := by
  have hmagnitude (rank : Nat) : (magnitudeText layout rank).isScalar = true := by
    simp only [magnitudeText]
    split_ifs
    · exact isScalar_ofString _
    · exact hinfinity
    · exact isScalar_positional (isScalar_ofNat _) _
    · exact isScalar_scaled (isScalar_ofNat _) _
  cases x with
  | nan => exact hnan
  | number negative rank =>
      cases negative <;> simp [textIn, hmagnitude]

theorem isScalar_toText (x : Binary64) : x.toText.isScalar = true :=
  isScalar_textIn (isScalar_ofString _) (isScalar_ofString _) x

end Binary64

/-! ## JSON texts -/

namespace Json

open Text

theorem isScalar_ofHex (n width : Nat) : (ofHex n width).isScalar = true := by
  induction width generalizing n with
  | zero => rfl
  | succ width ih =>
      have hdigit : (CodePoint.hexDigit (n % 16)).isSurrogate = false := by
        unfold CodePoint.hexDigit
        split_ifs <;> exact CodePoint.isSurrogate_ofNat (by omega) (by omega)
      simp [ofHex, ih, hdigit]

theorem isScalar_escape {c : CodePoint} (h : c.isSurrogate = false) :
    (escape c).isScalar = true := by
  unfold escape
  split_ifs <;> simp [h, isScalar_ofHex]

theorem isScalar_quote {t : Text} (h : t.isScalar = true) : (quote t).isScalar = true := by
  have hmark : (CodePoint.ofChar '"').isSurrogate = false := CodePoint.isSurrogate_ofChar '"'
  have hinner : isScalar (t.flatMap escape) = true :=
    isScalar_flatMap fun c hc => isScalar_escape (isScalar_iff.mp h c hc)
  simp [quote, hmark, hinner]

/-- A surrogate stands for itself in a JSON text. -/
theorem escape_surrogate {c : CodePoint} (h : c.isSurrogate = true) : escape c = [c] := by
  have hlow : 0xD800 ≤ c.val := by
    simp only [CodePoint.isSurrogate, Bool.and_eq_true, decide_eq_true_eq] at h
    exact h.1
  have hquote : c ≠ CodePoint.ofChar '"' := by
    rintro rfl
    exact absurd h (by decide)
  have hbackslash : c ≠ CodePoint.ofChar '\\' := by
    rintro rfl
    exact absurd h (by decide)
  unfold escape
  rw [if_neg hquote, if_neg hbackslash]
  split_ifs <;> first | rfl | omega

theorem isScalar_of_quote {t : Text} (h : (quote t).isScalar = true) : t.isScalar = true := by
  rw [isScalar_iff]
  intro c hc
  by_contra hsurrogate
  have hescape : escape c = [c] := escape_surrogate (by simpa using hsurrogate)
  have hinner : c ∈ t.flatMap escape :=
    List.mem_flatMap.mpr ⟨c, hc, hescape ▸ List.mem_singleton_self c⟩
  have hquoted : c ∈ quote t :=
    List.mem_append_left _ (List.mem_cons_of_mem _ hinner)
  exact hsurrogate (isScalar_iff.mp h c hquoted)

end Json

/-! ## UTF-8 -/

namespace Utf8

theorem isScalar_replaceSurrogates (t : Text) : (replaceSurrogates t).isScalar = true := by
  refine Text.isScalar_flatMap fun c _ => ?_
  split_ifs with h
  · exact Text.isScalar_replicate (by decide) 3
  · simpa using h

/-- Nothing is replaced in a text without surrogates. -/
theorem replaceSurrogates_eq_self {t : Text} (h : t.isScalar = true) :
    replaceSurrogates t = t := by
  induction t with
  | nil => rfl
  | cons c rest ih =>
      obtain ⟨hc, hrest⟩ := Text.isScalar_cons.mp h
      rw [replaceSurrogates] at ih ⊢
      rw [List.flatMap_cons, ih hrest, hc, if_neg Bool.false_ne_true, List.singleton_append]

/-- The least value that a pending code point may still take. -/
def Pending.least (p : Pending) : Nat := (p.value * 64 + (p.low - 0x80)) * 64 ^ (p.owed - 1)

/-- The number after the greatest value that a pending code point may still take. -/
def Pending.limit (p : Pending) : Nat := (p.value * 64 + (p.high - 0x80) + 1) * 64 ^ (p.owed - 1)

/-- A pending code point becomes nothing that is a surrogate or too large, whatever the bytes that
it owes. -/
structure Pending.Clear (p : Pending) : Prop where
  high : p.high ≤ 0xBF
  scalar : p.limit ≤ 0xD800 ∨ 0xDFFF < p.least
  range : p.limit ≤ 0x110000

/-- What a machine reports names no surrogate, and what is under way becomes none. -/
structure ClearState (state : List Mark × Option Pending) : Prop where
  marks : ∀ c, Mark.point c ∈ state.1 → c.isSurrogate = false
  pending : ∀ p ∈ state.2, p.Clear

namespace ClearState

theorem broken : ClearState ([.broken], none) := ⟨nofun, nofun⟩

theorem point {n : Nat} (hn : n < 0x110000) (h : n < 0xD800 ∨ 0xDFFF < n) :
    ClearState ([.point (CodePoint.ofNat n)], none) := by
  refine ⟨?_, nofun⟩
  intro c hc
  rw [Mark.point.inj (List.mem_singleton.mp hc)]
  exact CodePoint.isSurrogate_ofNat hn h

theorem under_way {p : Pending} (h : p.Clear) : ClearState ([], some p) :=
  ⟨nofun, fun _ hq => Option.some.inj hq ▸ h⟩

theorem ite {c : Prop} [Decidable c] {a b : List Mark × Option Pending}
    (ha : c → ClearState a) (hb : ¬ c → ClearState b) : ClearState (if c then a else b) := by
  by_cases h : c
  · rw [if_pos h]
    exact ha h
  · rw [if_neg h]
    exact hb h

end ClearState

theorem start_clear (b : UInt8) : ClearState (start false b) := by
  have hb : b.toNat < 256 := b.toNat_lt
  have hclear {owed low high value : Nat} (hhigh : high ≤ 0xBF)
      (hscalar : (value * 64 + (high - 0x80) + 1) * 64 ^ (owed - 1) ≤ 0xD800 ∨
        0xDFFF < (value * 64 + (low - 0x80)) * 64 ^ (owed - 1))
      (hrange : (value * 64 + (high - 0x80) + 1) * 64 ^ (owed - 1) ≤ 0x110000) :
      ClearState ([], some ⟨owed, low, high, value⟩) :=
    .under_way ⟨hhigh, hscalar, hrange⟩
  -- the classes of first bytes in their order: alone, stray, and two, three or four bytes
  refine .ite (fun _ => .point (by omega) (by omega)) fun h1 => ?_
  refine .ite (fun _ => .broken) fun h2 => ?_
  refine .ite (fun _ => ?_) fun h3 => ?_
  · exact hclear (by omega) (by omega) (by omega)
  refine .ite (fun _ => ?_) fun h4 => ?_
  · exact hclear (by omega) (by omega) (by omega)
  refine .ite (fun _ => ?_) fun h5 => ?_
  · exact hclear (by decide) (by decide) (by decide)
  refine .ite (fun _ => ?_) fun h6 => ?_
  · exact hclear (by omega) (by omega) (by omega)
  refine .ite (fun _ => ?_) fun h7 => ?_
  · exact hclear (by omega) (by omega) (by omega)
  refine .ite (fun _ => ?_) fun h8 => ?_
  · exact hclear (by omega) (by omega) (by omega)
  refine .ite (fun _ => ?_) fun _ => .broken
  exact hclear (by omega) (by omega) (by omega)

/-- A byte that a pending code point admits narrows what may still become of it. -/
theorem Pending.Clear.next {p : Pending} (h : p.Clear) (hmore : ¬ p.owed ≤ 1) {b : Nat}
    (hlow : p.low ≤ b) (hhigh : b ≤ p.high) :
    Pending.Clear ⟨p.owed - 1, 0x80, 0xBF, p.value * 64 + (b - 0x80)⟩ := by
  -- both bounds are multiples of one power of 64, and the byte is the next digit before it
  obtain ⟨k, hk⟩ : ∃ k, p.owed = k + 2 := ⟨p.owed - 2, by omega⟩
  have hpow : 64 ^ (p.owed - 1) = 64 * 64 ^ k := by
    rw [hk]
    exact Nat.pow_succ'
  have hlimit : Pending.limit ⟨p.owed - 1, 0x80, 0xBF, p.value * 64 + (b - 0x80)⟩ ≤ p.limit := by
    simp only [Pending.limit]
    rw [hpow, ← Nat.mul_assoc, hk]
    exact Nat.mul_le_mul_right _ (by have := h.high; omega)
  have hleast : p.least ≤ Pending.least ⟨p.owed - 1, 0x80, 0xBF, p.value * 64 + (b - 0x80)⟩ := by
    simp only [Pending.least]
    rw [hpow, ← Nat.mul_assoc, hk]
    exact Nat.mul_le_mul_right _ (by omega)
  refine ⟨Nat.le_refl _, ?_, ?_⟩
  · rcases h.scalar with hbelow | habove
    · exact Or.inl (Nat.le_trans hlimit hbelow)
    · exact Or.inr (Nat.lt_of_lt_of_le habove hleast)
  · exact Nat.le_trans hlimit h.range

theorem step_clear {pending : Option Pending} (h : ∀ p ∈ pending, p.Clear) (b : UInt8) :
    ClearState (step false pending b) := by
  cases pending with
  | none => exact start_clear b
  | some p =>
      have hp : p.Clear := h p rfl
      by_cases hin : p.low ≤ b.toNat ∧ b.toNat ≤ p.high
      · by_cases hlast : p.owed ≤ 1
        · -- nothing is owed after this byte, so the bounds speak of the code point itself
          have hone : p.owed - 1 = 0 := by omega
          have hlimit := hp.range
          have hscalar := hp.scalar
          simp only [Pending.limit, Pending.least, hone, Nat.pow_zero, Nat.mul_one]
            at hlimit hscalar
          simp only [step, if_pos hin, if_pos hlast]
          exact .point (by omega) (by omega)
        · simp only [step, if_pos hin, if_neg hlast]
          exact .under_way (hp.next hlast hin.1 hin.2)
      · -- what was under way is broken off, and the byte begins anew
        have hstart := start_clear b
        simp only [step, if_neg hin]
        refine ⟨?_, hstart.pending⟩
        intro c hc
        exact hstart.marks c ((List.mem_cons.mp hc).resolve_left nofun)

theorem scan_scalar (bytes : List UInt8) :
    ∀ pending : Option Pending, (∀ p ∈ pending, p.Clear) →
      ∀ c, Mark.point c ∈ scan false pending bytes → c.isSurrogate = false := by
  induction bytes with
  | nil =>
      intro pending _ c hc
      cases pending with
      | none => exact absurd hc List.not_mem_nil
      | some p => exact absurd (List.mem_singleton.mp hc) nofun
  | cons b rest ih =>
      intro pending h c hc
      have hstep := step_clear h b
      -- the invariant is that of the machine after each byte
      have hscan : scan false pending (b :: rest) =
          (step false pending b).1 ++ scan false (step false pending b).2 rest := by
        cases pending <;> rfl
      rw [hscan] at hc
      rcases List.mem_append.mp hc with hc | hc
      · exact hstep.marks c hc
      · exact ih _ hstep.pending c hc

/-- **Nothing that is decoded from UTF-8 holds a surrogate**, well formed or not. -/
theorem isScalar_decodeLossy (bytes : List UInt8) : (decodeLossy bytes).isScalar = true := by
  rw [decodeLossy, Text.isScalar_iff, List.forall_mem_map]
  intro mark hmark
  cases mark with
  | point c => exact scan_scalar bytes none nofun c hmark
  | broken => rfl

end Utf8

/-- The path of a request that was read from its percent-encoded form holds no surrogate. -/
theorem Target.isScalar_path (t : Text) : (Target.ofText t).path.isScalar = true :=
  Utf8.isScalar_decodeLossy _

end FacetSearch
