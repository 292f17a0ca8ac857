/-
# FacetSearch.Proofs.Calendar — which points of time can be shown.

A point of time is rounded to the microsecond and shown with a year of four digits.  The years of
the civil calendar follow the count of days, so the points of time that can be shown are those from
the first day of the year 1 to the last day of the year 9999, and no others.
-/
import FacetSearch.Logging.Time
import Mathlib.Tactic.SplitIfs

namespace FacetSearch.Logging.Time

/-! ## Years -/

/-- The years of an era: the first has 365 days, and the last begins after 145731 days. -/
theorem yearOfEra_bounds {day year : Nat} (hday : day < 146097)
    (hyear : (day - day / 1460 + day / 36524 - day / 146096) / 365 = year) :
    year ≤ 399 ∧ (year = 0 ↔ day < 365) ∧ (year = 399 ↔ 145731 ≤ day) := by
  refine ⟨?_, ?_, ?_⟩ <;> omega

/-- Eras begin in March of a year that 400 divides, and are equally long.  January comes 306 days
after the beginning of an era for the first time, and for the last time 60 days before its end. -/
theorem year_ofDays (days : Int) : ∃ (era : Int) (day years : Nat),
    days + 719468 = era * 146097 + day ∧ day < 146097 ∧
      (Date.ofDays days).year = era * 400 + years ∧ years ≤ 400 ∧
      (years = 0 ↔ day < 306) ∧ (years = 400 ↔ 146037 ≤ day) := by
  have hera := Int.ediv_mul_add_emod (days + 719468) 146097
  have hlow := Int.emod_nonneg (days + 719468) (show (146097 : Int) ≠ 0 by decide)
  have hhigh := Int.emod_lt_of_pos (days + 719468) (show (0 : Int) < 146097 by decide)
  simp only [Date.ofDays, Int.fdiv_eq_ediv_of_nonneg _ (show (0 : Int) ≤ 146097 by decide)]
  generalize (days + 719468) / 146097 = era at *
  generalize hday : (days + 719468 - era * 146097).toNat = day
  have hcount : days + 719468 = era * 146097 + day := by omega
  have hinside : day < 146097 := by omega
  generalize hyear : (day - day / 1460 + day / 36524 - day / 146096) / 365 = year
  generalize hrest : day - (365 * year + year / 4 - year / 100) = rest
  obtain ⟨hbound, hfirst, hlast⟩ := yearOfEra_bounds hinside hyear
  clear hyear hera hlow hhigh hday
  have hopening : year = 0 → rest = day := by rintro rfl; exact hrest.symm
  have hclosing : year = 399 → rest = day - 145731 := by rintro rfl; exact hrest.symm
  clear hrest
  -- Only in the first and the last year of an era the month matters.
  split_ifs
  · exact ⟨era, day, year + 1, hcount, hinside, by omega, by omega, by omega, by omega⟩
  · exact ⟨era, day, year, hcount, hinside, by omega, by omega, by omega, by omega⟩
  · exact ⟨era, day, year + 1, hcount, hinside, by omega, by omega, by omega, by omega⟩
  · exact ⟨era, day, year, hcount, hinside, by omega, by omega, by omega, by omega⟩

/-- The years of four digits are those of these days. -/
theorem year_bounds_iff (days : Int) :
    (1 ≤ (Date.ofDays days).year ∧ (Date.ofDays days).year ≤ 9999) ↔
      -719162 ≤ days ∧ days ≤ 2932896 := by
  obtain ⟨era, day, years, hcount, hinside, hyear, hyears, hfirst, hlast⟩ := year_ofDays days
  rw [hyear]
  omega

/-! ## Points of time -/

/-- The count of microseconds to which a point of time is rounded. -/
def microseconds? (x : Binary64) : Option Int :=
  (wholeSeconds? x).map fun split =>
    split.1 * 1000000 + ((split.2.mul (.ofInt 1000000)).round?).getD 0

/-- The first microsecond that can be shown. -/
def firstShown : Int := -62135596800000000

/-- The first microsecond after those that can be shown. -/
def firstLate : Int := 253402300800000000

/-- The date of a count of seconds that is far from what 64 bits hold. -/
theorem dateOf_isOk {x : Binary64} {seconds : Int}
    (hyear : 1 ≤ (Date.ofDays (seconds / 86400)).year ∧
      (Date.ofDays (seconds / 86400)).year ≤ 9999) :
    ∃ second, dateOf x seconds = .ok (Date.ofDays (seconds / 86400), second) := by
  have hdays := (year_bounds_iff _).mp hyear
  have hseconds : ¬ (seconds < -secondLimit ∨ secondLimit ≤ seconds) := by
    unfold secondLimit
    omega
  have hnear : ¬ ((Date.ofDays (seconds / 86400)).year - 1900 < -yearLimit - 1 ∨
      yearLimit < (Date.ofDays (seconds / 86400)).year - 1900) := by
    unfold yearLimit
    omega
  have hfdiv : seconds.fdiv 86400 = seconds / 86400 :=
    Int.fdiv_eq_ediv_of_nonneg _ (by decide)
  refine ⟨(seconds.emod 86400).toNat, ?_⟩
  simp only [dateOf, splitDay, hfdiv, if_neg hseconds, if_neg hnear]

/-- A date that is given for a count of seconds is its date. -/
theorem dateOf_eq_ok {x : Binary64} {seconds : Int} {date : Date} {second : Nat}
    (h : dateOf x seconds = .ok (date, second)) : date = Date.ofDays (seconds / 86400) := by
  have hfdiv : seconds.fdiv 86400 = seconds / 86400 :=
    Int.fdiv_eq_ediv_of_nonneg _ (by decide)
  simp only [dateOf, splitDay, hfdiv] at h
  split_ifs at h
  exact (Prod.mk.inj (Except.ok.inj h)).1.symm

/-- **A point of time can be shown exactly if it is in the years 1 to 9999**, rounded to the
microsecond. -/
theorem isoText_isOk_iff (x : Binary64) :
    (∃ text, isoText x = .ok text) ↔
      ∃ n, microseconds? x = some n ∧ firstShown ≤ n ∧ n < firstLate := by
  unfold isoText microseconds?
  cases hsplit : wholeSeconds? x with
  | none => simp
  | some split =>
      obtain ⟨whole, rest⟩ := split
      simp only [Option.map_some, Option.some.injEq, exists_eq_left']
      generalize whole * 1000000 + ((rest.mul (.ofInt 1000000)).round?).getD 0 = total
      rw [Int.fdiv_eq_ediv_of_nonneg _ (show (0 : Int) ≤ 1000000 by decide)]
      have hdays := year_bounds_iff (total / 1000000 / 86400)
      have hrange : (firstShown ≤ total ∧ total < firstLate) ↔
          -719162 ≤ total / 1000000 / 86400 ∧ total / 1000000 / 86400 ≤ 2932896 := by
        unfold firstShown firstLate
        omega
      rw [hrange, ← hdays]
      constructor
      · rintro ⟨text, htext⟩
        cases hdate : dateOf x (total / 1000000) with
        | error failure =>
            rw [hdate] at htext
            exact absurd htext (by simp [bind, Except.bind])
        | ok found =>
            obtain ⟨date, second⟩ := found
            obtain rfl := dateOf_eq_ok hdate
            rw [hdate] at htext
            by_cases hyear : (Date.ofDays (total / 1000000 / 86400)).year < 1 ∨
                9999 < (Date.ofDays (total / 1000000 / 86400)).year
            · have herror := (if_pos hyear).symm.trans htext
              exact absurd herror (by simp)
            · omega
      · intro hyear
        obtain ⟨second, hdate⟩ := dateOf_isOk (x := x) hyear
        rw [hdate]
        have hnot : ¬ ((Date.ofDays (total / 1000000 / 86400)).year < 1 ∨
            9999 < (Date.ofDays (total / 1000000 / 86400)).year) := by omega
        exact ⟨_, if_neg hnot⟩

end FacetSearch.Logging.Time
