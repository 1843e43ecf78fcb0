import PasswordGate.Log.Calendar
import PasswordGate.Number.Shortest
import PasswordGate.Value
/-!
# Instant — when a record was made, and its stamp

An instant is a whole number of microseconds since 1970.  A double is brought to microseconds by rounding the
microseconds of its fraction, a half to the even one.  The stamp is cut, not rounded, to milliseconds, and is 24
characters long; only years of at most four digits have one.
-/
namespace PasswordGate

/-- Microseconds since 1970. -/
abbrev Instant := Int

inductive InstantError
  | notANumber
  | overflow
  | beyondCalendar
  | yearOutOfRange (year : Int)
  | notNumeric
  deriving DecidableEq, Repr

namespace Instant

def microsPerSecond : Nat := 1000000

def secondsPerDay : Nat := 86400

/-- The day of the first of January 1970. -/
def epochDay : Int := 719162

/-- Seconds fit 64 bits with sign, or they are no instant. -/
def ofSeconds (seconds : Int) : Except InstantError Instant :=
  if -9223372036854775808 ≤ seconds ∧ seconds ≤ 9223372036854775807 then .ok (seconds * microsPerSecond)
  else .error .overflow

/-- The whole microseconds of a fraction of a second, itself a double; the product is rounded to a double first. -/
def fractionMicros (num den : Nat) : Nat :=
  match Double.ofRatio false (num * microsPerSecond) den with
  | .finite _ mantissa exponent =>
    let (num, den) := Double.ratio mantissa exponent
    roundDiv num den
  | _ => 0

/-- **The instant of a double**, in seconds. -/
def ofDouble : Double → Except InstantError Instant
  | .nan => .error .notANumber
  | .infinite _ => .error .overflow
  | .finite negative mantissa exponent => do
    let (num, den) := Double.ratio mantissa exponent
    let whole : Int := num / den
    let micros : Int := fractionMicros (num % den) den
    let seconds ← ofSeconds (if negative then -whole else whole)
    return seconds + (if negative then -micros else micros)

def ofValue : Value → Except InstantError Instant
  | .float x => ofDouble x
  | value =>
    match value.integer? with
    | some n => ofSeconds n
    | none => .error .notNumeric

def padded (width n : Nat) : String := FloatStyle.padLeft width (toString n)

/-- The text of a date and a number of milliseconds in the day. -/
def format (date : Date) (millis : Nat) : String :=
  padded 4 date.year.toNat ++ "-" ++ padded 2 date.month ++ "-" ++ padded 2 date.day ++ "T" ++
    padded 2 (millis / 3600000) ++ ":" ++ padded 2 (millis / 60000 % 60) ++ ":" ++
    padded 2 (millis / 1000 % 60) ++ "." ++ padded 3 (millis % 1000) ++ "Z"

/-- Whether the seconds of an instant can be taken apart at all. -/
def inCalendar (instant : Instant) : Bool :=
  -67768040609740800 ≤ instant / microsPerSecond && instant / microsPerSecond ≤ 67768036191676799

/-- **The stamp of an instant**: the date and the time to the millisecond. -/
def stamp (instant : Instant) : Except InstantError String :=
  let millis := instant / 1000
  let date := Date.ofDay (millis / (secondsPerDay * 1000) + epochDay)
  if !inCalendar instant then .error .beyondCalendar
  else if 1 ≤ date.year ∧ date.year ≤ 9999 then .ok (format date (millis % (secondsPerDay * 1000)).toNat)
  else .error (.yearOutOfRange date.year)

end Instant
end PasswordGate
