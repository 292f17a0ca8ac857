/-
# FacetSearch.Proofs.PriceEnds — the emitted price range is the asked one, up to its end points.

Two prices are compared as the decimals that they are, and only then does each become a double.
Rounding passes no double, so a price that is asked for is still in the range, whatever the ends
were rounded to, and what the range takes in besides stands exactly on one of its ends.  The ends
may fall together, and they may be infinite.
-/
import FacetSearch.Proofs.Dependence
import FacetSearch.Proofs.Rounding

namespace FacetSearch

/-- The number at one end of the range of a filter. -/
noncomputable def PriceRange.endOfFilter (filter : Value) (side : Text) : Option EReal :=
  match filter.at? ["range", Field.price.label, side] with
  | some (.float x) => x.toEReal?
  | _ => none

/-- The range from `low` to `high` does for the prices from `a` to `b` what doubles can do: every
double from `a` to `b` is in it, every double between its ends lies between `a` and `b`, and so no
other double is in it but its ends. -/
structure EnclosesPrices (low high a b : EReal) : Prop where
  ordered : low ≤ high
  keeps : ∀ x n, Binary64.toEReal? x = some n → n ∈ Set.Icc a b → n ∈ Set.Icc low high
  inside : ∀ x n, Binary64.toEReal? x = some n → n ∈ Set.Ioo low high → n ∈ Set.Ioo a b
  besides : ∀ x n, Binary64.toEReal? x = some n → n ∈ Set.Icc low high → n ∉ Set.Icc a b →
    n = low ∨ n = high

theorem Decimal.enclosesPrices {a b : Decimal} (h : a.value ≤ b.value) :
    EnclosesPrices a.rounded b.rounded a.toEReal b.toEReal := by
  have inside (x : Binary64) (n : EReal) (hx : x.toEReal? = some n)
      (hn : n ∈ Set.Ioo a.rounded b.rounded) : n ∈ Set.Ioo a.toEReal b.toEReal := by
    constructor
    · by_contra hle
      exact absurd hn.1 (le_rounded_of_le hx (not_lt.mp hle)).not_gt
    · by_contra hle
      exact absurd hn.2 (rounded_le_of_le hx (not_lt.mp hle)).not_gt
  refine ⟨rounded_mono h, ?_, inside, ?_⟩
  · exact fun x n hx hn => ⟨rounded_le_of_le hx hn.1, le_rounded_of_le hx hn.2⟩
  · intro x n hx hn hout
    by_contra hends
    obtain ⟨hlow, hhigh⟩ := not_or.mp hends
    have hbetween : n ∈ Set.Ioo a.rounded b.rounded :=
      ⟨hn.1.lt_of_ne' hlow, hn.2.lt_of_ne hhigh⟩
    exact hout (Set.Ioo_subset_Icc_self (inside x n hx hbetween))

namespace PriceRange

/-- Prices handed over as values make the same range as prices that were read. -/
theorem between_priceValue (min max : Option Decimal) :
    between (Params.priceValue min) (Params.priceValue max) = .ok (ofPrices min max) := by
  cases min with
  | none => rfl
  | some a =>
      cases max with
      | none => rfl
      | some b =>
          show (if a.lt b then _ else _) = Except.ok (if a.lt b then _ else _)
          split_ifs <;> rfl

theorem isSome_ofPrices_iff (min max : Option Decimal) :
    (ofPrices min max).isSome = true ↔ RangeInEffect min max := by
  constructor
  · intro h
    by_contra hnot
    rw [ofPrices_notInEffect hnot] at h
    exact absurd h nofun
  · rintro ⟨a, b, rfl, rfl, hlt⟩
    rw [ofPrices_inEffect hlt]
    rfl

end PriceRange

/-- **The emitted price range is the requested one up to its end points.**  A filter is emitted
exactly if both prices are given and the first is less than the second, however close they are.  Its
ends stand in order, every double from the first price to the second lies in the range, and every
double strictly between its ends lies strictly between the prices. -/
theorem price_range_up_to_ends (min max : Option Decimal) :
    PriceRange.between (Params.priceValue min) (Params.priceValue max) =
      .ok (PriceRange.ofPrices min max) ∧
    ((PriceRange.ofPrices min max).isSome = true ↔ RangeInEffect min max) ∧
    ∀ a b range, min = some a → max = some b → PriceRange.ofPrices min max = some range →
      ∃ low high, PriceRange.endOfFilter range.toValue "gte" = some low ∧
        PriceRange.endOfFilter range.toValue "lte" = some high ∧
        EnclosesPrices low high a.toEReal b.toEReal := by
  refine ⟨PriceRange.between_priceValue min max, PriceRange.isSome_ofPrices_iff min max, ?_⟩
  rintro a b range rfl rfl hrange
  have hlt : a.value < b.value := by
    have heffect := (PriceRange.isSome_ofPrices_iff _ _).mp (Option.isSome_of_eq_some hrange)
    obtain ⟨a', b', ha, hb, hlt⟩ := heffect
    rwa [Option.some.inj ha, Option.some.inj hb]
  rw [PriceRange.ofPrices_inEffect hlt] at hrange
  obtain rfl := Option.some.inj hrange
  exact ⟨a.rounded, b.rounded, a.toEReal?_toBinary64, b.toEReal?_toBinary64,
    Decimal.enclosesPrices hlt.le⟩

/-- Two prices that are one double: the range is that one point, and still holds all there is. -/
theorem price_range_up_to_ends_point :
    PriceRange.ofPrices (some ⟨false, 1, 0⟩) (some ⟨false, 10000000000000000001, -19⟩) =
      some ⟨.ofInt 1, .ofInt 1⟩ ∧
    ∃ low, EnclosesPrices low low (Decimal.toEReal ⟨false, 1, 0⟩)
      (Decimal.toEReal ⟨false, 10000000000000000001, -19⟩) := by
  have hrange : PriceRange.ofPrices (some ⟨false, 1, 0⟩)
      (some ⟨false, 10000000000000000001, -19⟩) = some ⟨.ofInt 1, .ofInt 1⟩ := by decide +kernel
  obtain ⟨-, -, hends⟩ :=
    price_range_up_to_ends (some ⟨false, 1, 0⟩) (some ⟨false, 10000000000000000001, -19⟩)
  obtain ⟨low, high, hlow, hhigh, hencloses⟩ := hends _ _ _ rfl rfl hrange
  -- both ends of the filter are the same double
  have hsame : low = high := Option.some.inj (hlow.symm.trans hhigh)
  exact ⟨hrange, low, hsame ▸ hencloses⟩

end FacetSearch
