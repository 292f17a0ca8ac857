/-
# FacetSearch.Logging.Time — points of time as text.

A point of time is a count of seconds since the beginning of 1970, in UTC.  Two texts are in use:
one to the microsecond, whose fraction is left out when it is zero, and one to the millisecond.
-/
import FacetSearch.Failure
import FacetSearch.Numeric.Binary64

namespace FacetSearch.Logging.Time

/-- A date of the civil calendar. -/
structure Date where
  year : Int
  month : Nat
  day : Nat
  deriving DecidableEq, Repr

/-- The date of a count of days since the beginning of 1970.  Eras of 400 years all have 146097
days; inside an era years begin in March. -/
def Date.ofDays (days : Int) : Date :=
  let shifted := days + 719468
  let era := shifted.fdiv 146097
  let dayOfEra := (shifted - era * 146097).toNat
  let yearOfEra := (dayOfEra - dayOfEra / 1460 + dayOfEra / 36524 - dayOfEra / 146096) / 365
  let dayOfYear := dayOfEra - (365 * yearOfEra + yearOfEra / 4 - yearOfEra / 100)
  let marchMonth := (5 * dayOfYear + 2) / 153
  let day := dayOfYear - (153 * marchMonth + 2) / 5 + 1
  let month := if marchMonth < 10 then marchMonth + 3 else marchMonth - 9
  let year := (yearOfEra : Int) + era * 400
  ⟨if month ≤ 2 then year + 1 else year, month, day⟩

/-- A number with at least so many digits. -/
def padded (width n : Nat) : Text := (Text.ofNat n).padLeft width '0'

/-- Month and day, and the time of a second of the day, with a separator between them. -/
def dayText (date : Date) (separator : Text) (second : Nat) : Text :=
  "-" ++ padded 2 date.month ++ "-" ++ padded 2 date.day ++ separator ++
    padded 2 (second / 3600) ++ ":" ++ padded 2 (second / 60 % 60) ++ ":" ++ padded 2 (second % 60)

/-- The whole days and the second of the day in a count of seconds. -/
def splitDay (seconds : Int) : Int × Nat :=
  (seconds.fdiv 86400, (seconds.emod 86400).toNat)

/-- The count of seconds as a number of whole seconds, and what is left over. -/
def wholeSeconds? (x : Binary64) : Option (Int × Binary64) :=
  x.truncate?.map fun n => (n, x.sub (.ofInt n))

/-- A count of seconds that is no point of time: not-a-number, or one that 64 bits do not hold. -/
def fault : Binary64 → Failure
  | .nan => Failure.ofFault .value "Invalid value NaN (not a number)"
  | _ => Failure.ofFault .overflow "timestamp out of range for platform time_t"

/-- A date whose year, counted from 1900, 32 bits do not hold. -/
def dateFault : Failure :=
  Failure.ofFault .system "[Errno 75] Value too large for defined data type"

/-- The least count of seconds that is too great, two to the power of 63. -/
def secondLimit : Int := 0x8000000000000000

/-- The greatest year, and the number of years of 32 bits. -/
def yearLimit : Int := 0x7FFFFFFF

/-- The date of a count of seconds, with the second of the day. -/
def dateOf (x : Binary64) (seconds : Int) : Except Failure (Date × Nat) :=
  if seconds < -secondLimit ∨ secondLimit ≤ seconds then .error (fault x)
  else
    let (days, second) := splitDay seconds
    let date := Date.ofDays days
    if date.year - 1900 < -yearLimit - 1 ∨ yearLimit < date.year - 1900 then .error dateFault
    else .ok (date, second)

/-- A year as 32 bits show it: beyond the limit it starts again from the least one. -/
def shownYear (year : Int) : Int := if yearLimit < year then year - 2 * yearLimit - 2 else year

/-- A point of time to the microsecond, a half going to the even one; the year has four digits. -/
def isoText (x : Binary64) : Except Failure Text := do
  match wholeSeconds? x with
  | none => .error (fault x)
  | some (whole, rest) =>
    let micros := ((rest.mul (.ofInt 1000000)).round?).getD 0
    let total := whole * 1000000 + micros
    let (date, second) ← dateOf x (total.fdiv 1000000)
    let fraction := (total.emod 1000000).toNat
    if date.year < 1 ∨ 9999 < date.year then
      .error (Failure.ofFault .value
        ("year " ++ Text.ofInt (shownYear date.year) ++ " is out of range"))
    else
      .ok (padded 4 date.year.toNat ++ dayText date "T" second ++
        (if fraction = 0 then [] else CodePoint.ofChar '.' :: padded 6 fraction) ++
        Text.ofString "Z")

/-- A point of time to the second that has begun, and the milliseconds after the whole second. -/
def clockText (x : Binary64) : Except Failure Text := do
  match x.floor?, wholeSeconds? x with
  | some begun, some (_, rest) =>
    let (date, second) ← dateOf x begun
    let millis := ((rest.mul (.ofInt 1000)).truncate?).getD 0
    let sign : Text := if millis < 0 then "-" else ""
    if yearLimit < date.year then .error dateFault
    else .ok (Text.ofInt date.year ++ dayText date " " second ++ "," ++ sign ++
      padded (3 - sign.length) millis.natAbs)
  | _, _ => .error (fault x)

end FacetSearch.Logging.Time
