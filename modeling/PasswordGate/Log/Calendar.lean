/-!
# Calendar — days as dates

Days are counted from the first of January of year 1 of the proleptic Gregorian calendar, that day being day 0.
`Date.ofDay` peels whole cycles off a day count: four centuries, a century, four years, a year; the last day of a cycle
that is one day longer stays in the last part of it.  `Date.toDay` counts back.
-/
namespace PasswordGate

/-- A date: the month and the day of the month are counted from one. -/
structure Date where
  year : Int
  month : Nat
  day : Nat
  deriving DecidableEq, Repr

namespace Calendar

/-- **A leap year**: every fourth one, but of the centuries only every fourth. -/
def isLeap (year : Int) : Bool := year % 4 == 0 && (year % 100 != 0 || year % 400 == 0)

def monthLength (leap : Bool) : Nat → Nat
  | 2 => if leap then 29 else 28
  | 4 | 6 | 9 | 11 => 30
  | _ => 31

def daysBeforeMonth (leap : Bool) : Nat → Nat
  | 0 | 1 => 0
  | month + 2 => daysBeforeMonth leap (month + 1) + monthLength leap (month + 1)

def daysBeforeYear (year : Int) : Int :=
  365 * (year - 1) + (year - 1) / 4 - (year - 1) / 100 + (year - 1) / 400

/-- The month in which a day of the year lies, and the days of the year before that month. -/
def monthOf (leap : Bool) (dayOfYear : Nat) : Nat :=
  ((List.range 11).filter fun i => daysBeforeMonth leap (i + 2) ≤ dayOfYear).length + 1

/-- The year in which a day lies, and its number in the year. -/
def yearOf (day : Int) : Int × Nat :=
  let cycle := day / 146097
  let inCycle := (day % 146097).toNat
  let century := min (inCycle / 36524) 3
  let inCentury := inCycle - century * 36524
  let four := inCentury / 1461
  let inFour := inCentury - four * 1461
  let one := min (inFour / 365) 3
  (cycle * 400 + century * 100 + four * 4 + one + 1, inFour - one * 365)

end Calendar

namespace Date

def ofDay (day : Int) : Date :=
  let (year, dayOfYear) := Calendar.yearOf day
  let leap := Calendar.isLeap year
  let month := Calendar.monthOf leap dayOfYear
  { year := year, month := month, day := dayOfYear - Calendar.daysBeforeMonth leap month + 1 }

def toDay (d : Date) : Int :=
  Calendar.daysBeforeYear d.year + Calendar.daysBeforeMonth (Calendar.isLeap d.year) d.month + d.day - 1

/-- A date that the calendar has, within four digits of years. -/
def isValid (d : Date) : Bool :=
  1 ≤ d.year && d.year ≤ 9999 && 1 ≤ d.month && d.month ≤ 12 && 1 ≤ d.day &&
    d.day ≤ Calendar.monthLength (Calendar.isLeap d.year) d.month

end Date
end PasswordGate
