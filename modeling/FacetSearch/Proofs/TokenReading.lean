/-
# FacetSearch.Proofs.TokenReading — what a property token can be read as.

A token can be cut at the first two bars that stand next to one another in it, and what stands
before them is then a safe name.  No other safe name makes the same token, so a token is read in one
way only, and the name and the value that were written are found again exactly if the name is safe.
An unsafe name is never told apart: whatever its value, its token is that of one shorter, safe name.
-/
import FacetSearch.Proofs.Token
import FacetSearch.Query.Facet
import Mathlib.Data.Set.Function

namespace FacetSearch

/-- A token cut at its first separator, if it has one: a name and a value. -/
def readToken? : Text → Option (Text × Text)
  | [] => none
  | [_] => none
  | c :: d :: rest =>
    if c = bar ∧ d = bar then some ([], rest)
    else (readToken? (d :: rest)).map fun (name, value) => (c :: name, value)

/-- A safe name and a value whose token is the given one. -/
structure SafeReading (token : Text) (reading : Text × Text) : Prop where
  safe : SafeName reading.1
  token_eq : propertyToken reading.1 reading.2 = token

namespace SafeName

theorem nil : SafeName [] := by decide

/-- A code point may stand before a safe name, unless it is a bar before a bar or before nothing. -/
theorem cons {c : CodePoint} {name : Text} (h : SafeName name)
    (hbar : c = bar → ∃ d rest, name = d :: rest ∧ d ≠ bar) : SafeName (c :: name) := by
  refine ⟨fun hin => ?_, fun hend => ?_⟩
  · rcases List.infix_cons_iff.mp hin with hlead | hin
    · -- the separator can only begin where the new code point stands
      rw [tokenSeparator_eq, List.cons_prefix_cons] at hlead
      obtain ⟨d, rest, rfl, hd⟩ := hbar hlead.1.symm
      exact hd (List.cons_prefix_cons.mp hlead.2).1.symm
    · exact h.1 hin
  · rcases List.suffix_cons_iff.mp hend with heq | hend
    · obtain ⟨rfl, hnil⟩ := List.cons.inj heq
      obtain ⟨d, rest, rfl, -⟩ := hbar rfl
      exact absurd hnil (List.cons_ne_nil d rest).symm
    · exact h.2 hend

end SafeName

/-! ## Cutting at the first separator -/

/-- What a token is read as is safe, and makes the token. -/
theorem readToken?_sound {token : Text} {reading : Text × Text}
    (h : readToken? token = some reading) : SafeReading token reading := by
  induction token using readToken?.induct generalizing reading with
  | case1 => exact absurd h nofun
  | case2 c => exact absurd h nofun
  | case3 c d rest hbars =>
      rw [readToken?, if_pos hbars] at h
      obtain rfl := Option.some.inj h
      obtain ⟨rfl, rfl⟩ := hbars
      exact ⟨SafeName.nil, propertyToken_eq [] rest⟩
  | case4 c d rest hbars ih =>
      rw [readToken?, if_neg hbars] at h
      obtain ⟨⟨name, value⟩, hread, rfl⟩ := Option.map_eq_some_iff.mp h
      obtain ⟨hsafe, htoken⟩ := ih hread
      rw [propertyToken_eq] at htoken
      refine ⟨hsafe.cons ?_, ?_⟩
      · -- a bar in front is followed by no bar, and never stands at the end
        rintro rfl
        have hd : d ≠ bar := fun hd => hbars ⟨rfl, hd⟩
        cases name with
        | nil => exact absurd (List.cons.inj htoken).1.symm hd
        | cons e name =>
            obtain ⟨rfl, -⟩ := List.cons.inj htoken
            exact ⟨e, name, rfl, hd⟩
      · rw [propertyToken_eq, List.cons_append, htoken]

/-- Whatever stands in front of a separator, there is a first one. -/
theorem readToken?_isSome (name value : Text) :
    (readToken? (propertyToken name value)).isSome = true := by
  rw [propertyToken_eq]
  induction name with
  | nil => simp [readToken?]
  | cons c name ih =>
      obtain ⟨d, rest, hrest⟩ : ∃ d rest, name ++ bar :: bar :: value = d :: rest :=
        List.exists_cons_of_ne_nil (by simp)
      rw [List.cons_append, hrest, readToken?]
      split_ifs with hbars
      · rfl
      · rw [Option.isSome_map, ← hrest, ih]

/-- **A token is read in exactly one way.** -/
theorem readToken?_eq_some_iff {token : Text} {reading : Text × Text} :
    readToken? token = some reading ↔ SafeReading token reading := by
  refine ⟨readToken?_sound, ?_⟩
  rintro ⟨hsafe, rfl⟩
  obtain ⟨other, hother⟩ := Option.isSome_iff_exists.mp (readToken?_isSome reading.1 reading.2)
  obtain ⟨hsafe', htoken⟩ := readToken?_sound hother
  obtain ⟨hname, hvalue⟩ := (propertyToken_inj hsafe' hsafe).mp htoken
  rw [hother, Prod.ext hname hvalue]

theorem readToken?_propertyToken_iff (name value : Text) :
    readToken? (propertyToken name value) = some (name, value) ↔ SafeName name := by
  rw [readToken?_eq_some_iff]
  exact ⟨SafeReading.safe, fun h => ⟨h, rfl⟩⟩

/-! ## Names that are not safe -/

/-- The safe name and the beginning of every value that the tokens of a name are read as. -/
theorem exists_safeName (name : Text) :
    ∃ safe lead, SafeName safe ∧
      ∀ value, propertyToken safe (lead ++ value) = propertyToken name value := by
  -- the token of the empty value holds the first separator already
  obtain ⟨⟨safe, lead⟩, hread⟩ := Option.isSome_iff_exists.mp (readToken?_isSome name [])
  obtain ⟨hsafe, htoken⟩ := readToken?_sound hread
  refine ⟨safe, lead, hsafe, fun value => ?_⟩
  have hvalue (n v : Text) : propertyToken n (v ++ value) = propertyToken n v ++ value :=
    (List.append_assoc _ _ _).symm
  rw [hvalue, htoken, ← hvalue, List.nil_append]

/-- Names with the same tokens, but for a beginning of the values, make the same clause. -/
theorem Facet.propertyClauses_singleton_congr {name name' lead : Text}
    (h : ∀ value, propertyToken name' (lead ++ value) = propertyToken name value)
    (values : List Text) :
    propertyClauses [(name', values.map (lead ++ ·))] = propertyClauses [(name, values)] := by
  cases values with
  | nil => rfl
  | cons value values => simp [propertyClauses, h]

/-- **When property tokens are ambiguous.**  Every token has exactly one safe reading, which is the
name and the value that were written exactly if the name is safe.  So the tokens of safe names are
all different, while an unsafe name shares each of its tokens, and the clause for any of its values,
with one safe name whose values begin differently. -/
theorem propertyToken_reads_once (name value : Text) :
    (∃! reading, SafeReading (propertyToken name value) reading) ∧
    (∀ reading, SafeReading (propertyToken name value) reading →
      (reading = (name, value) ↔ SafeName name)) ∧
    Set.InjOn (fun reading : Text × Text => propertyToken reading.1 reading.2)
      {reading | SafeName reading.1} ∧
    (¬ SafeName name → ∃ safe lead, SafeName safe ∧ safe ≠ name ∧
      (∀ value', propertyToken safe (lead ++ value') = propertyToken name value') ∧
      ∀ values, Facet.propertyClauses [(safe, values.map (lead ++ ·))] =
        Facet.propertyClauses [(name, values)]) := by
  refine ⟨?_, ?_, ?_, ?_⟩
  · obtain ⟨reading, hreading⟩ := Option.isSome_iff_exists.mp (readToken?_isSome name value)
    refine ⟨reading, readToken?_sound hreading, fun other hother => ?_⟩
    exact Option.some.inj ((readToken?_eq_some_iff.mpr hother).symm.trans hreading)
  · intro reading hreading
    rw [← readToken?_propertyToken_iff name value, readToken?_eq_some_iff.mpr hreading,
      Option.some.injEq]
  · rintro ⟨n, v⟩ hn ⟨n', v'⟩ hn' htoken
    obtain ⟨hname, hvalue⟩ := (propertyToken_inj hn hn').mp htoken
    exact Prod.ext hname hvalue
  · intro hunsafe
    obtain ⟨safe, lead, hsafe, htoken⟩ := exists_safeName name
    refine ⟨safe, lead, hsafe, ?_, htoken, Facet.propertyClauses_singleton_congr htoken⟩
    rintro rfl
    exact hunsafe hsafe

/-- One bar at the end of a name goes over to the value. -/
theorem propertyToken_reads_once_barred :
    ¬ SafeName (Text.ofString "size|") ∧
      ∀ reading, SafeReading (propertyToken "size|" "M") reading ↔
        reading = (("size" : Text), ("|M" : Text)) := by
  have hcut : SafeReading (propertyToken "size|" "M") ("size", "|M") :=
    readToken?_sound (by decide)
  obtain ⟨⟨first, -, hunique⟩, -⟩ := propertyToken_reads_once "size|" "M"
  refine ⟨by decide, fun reading => ⟨fun hreading => ?_, ?_⟩⟩
  · exact (hunique reading hreading).trans (hunique _ hcut).symm
  · rintro rfl
    exact hcut

end FacetSearch
