import ClusterVault.Text.Bytes

/-!
# Dates

Certificates name the seconds between which they hold by the date.

## Main definitions

- `Calendar.daysBefore`, `Calendar.dateOf`: dates and the days since the start of 1970
- `Calendar.Moment.seconds`: the seconds since then
- `Calendar.render`: the wording of a second
- `Calendar.parseShort?`, `Calendar.parseLong?`: the two forms that certificates use

## Design notes

Years are counted from the first of March, which puts the leap day at the end. The calendar repeats
every 400 years, or 146097 days.
-/

namespace ClusterVault.Calendar

/-- The number of days from the start of 1970 to a date. -/
def daysBefore (year : Int) (month day : Nat) : Int :=
  let y := if month ≤ 2 then year - 1 else year
  let era := y / 400
  let yearOfEra := y % 400
  let monthFromMarch : Int := (month + 9) % 12
  let dayOfYear := (153 * monthFromMarch + 2) / 5 + day - 1
  let dayOfEra := yearOfEra * 365 + yearOfEra / 4 - yearOfEra / 100 + dayOfYear
  era * 146097 + dayOfEra - 719468

/-- The year, month and day that lie a number of days after the start of 1970. -/
def dateOf (days : Int) : Int × Nat × Nat :=
  let z := days + 719468
  let era := z / 146097
  let dayOfEra := z % 146097
  let yearOfEra := (dayOfEra - dayOfEra / 1460 + dayOfEra / 36524 - dayOfEra / 146096) / 365
  let dayOfYear := dayOfEra - (365 * yearOfEra + yearOfEra / 4 - yearOfEra / 100)
  let monthFromMarch := (5 * dayOfYear + 2) / 153
  let day := dayOfYear - (153 * monthFromMarch + 2) / 5 + 1
  let month := if monthFromMarch < 10 then monthFromMarch + 3 else monthFromMarch - 9
  let year := yearOfEra + era * 400
  (if month ≤ 2 then year + 1 else year, month.toNat, day.toNat)

/-- The seconds since the start of 1970 at a time of a date. -/
def secondsAt (year : Int) (month day hour minute second : Nat) : Int :=
  daysBefore year month day * 86400 + hour * 3600 + minute * 60 + second

/-- The last second whose year has four digits. -/
def lastSecond : Int := secondsAt 9999 12 31 23 59 59

/-- The names of the months. -/
def monthNames : List String :=
  ["Jan", "Feb", "Mar", "Apr", "May", "Jun", "Jul", "Aug", "Sep", "Oct", "Nov", "Dec"]

/-- A number of at most two digits, led by the given character if it has one. -/
def twoDigits (lead : String) (n : Nat) : String :=
  if n < 10 then lead ++ toString n else toString n

/-- The wording of a second. -/
def render (seconds : Int) : String :=
  let (year, month, day) := dateOf (seconds / 86400)
  let rest := (seconds % 86400).toNat
  let clock := ":".intercalate
    ([rest / 3600, rest / 60 % 60, rest % 60].map (twoDigits "0"))
  let monthName := monthNames.getD (month - 1) ""
  let dayText := twoDigits " " day
  s!"{monthName} {dayText} {clock} {year} GMT"

/-- The number that decimal digits write. -/
def digits? (b : Bytes) : Option Nat :=
  b.foldlM (fun n d => if 0x30 ≤ d && d ≤ 0x39 then some (n * 10 + (d.toNat - 0x30)) else none) 0

/-- Reads month, day, hour, minute and second, with the mark of universal time behind them. -/
def parseRest? (year : Int) (b : Bytes) : Option Int := do
  if b.length ≠ 11 || b.getLast? ≠ some 0x5a then none
  else
    let part (i : Nat) : Option Nat := digits? ((b.drop (2 * i)).take 2)
    return secondsAt year (← part 0) (← part 1) (← part 2) (← part 3) (← part 4)

/-- Reads a second whose year has two digits and lies between 1950 and 2049. -/
def parseShort? (b : Bytes) : Option Int := do
  let year ← digits? (b.take 2)
  parseRest? (if year < 50 then 2000 + year else 1900 + year) (b.drop 2)

/-- Reads a second whose year has four digits. -/
def parseLong? (b : Bytes) : Option Int := do
  parseRest? (← digits? (b.take 4)) (b.drop 4)

end ClusterVault.Calendar
