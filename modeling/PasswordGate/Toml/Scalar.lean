import PasswordGate.Log.Calendar
import PasswordGate.Number.Reading
import PasswordGate.Toml.Lexeme
import PasswordGate.Value
/-!
# Scalars — moments and numbers of a settings document

A moment is a date, a date with a time, or a time; it has to exist on the calendar, and is kept as written.  A number is
an integer in base two, eight, ten or sixteen, or a decimal with a fraction or an exponent; single underscores may stand
between digits.
-/
namespace PasswordGate
namespace Toml

/-! ## Moments -/

def fixedDigits (width : Nat) (text : List Char) : Option (Nat × List Char) :=
  let digits := text.take width
  if digits.length = width ∧ digits.all Char.isDigit then some (naturalOfDigits digits, text.drop width) else none

def expect (c : Char) : List Char → Option (List Char)
  | d :: rest => if c = d then some rest else none
  | [] => none

def skipFraction : List Char → List Char
  | '.' :: c :: rest => if c.isDigit then rest.dropWhile Char.isDigit else '.' :: c :: rest
  | text => text

/-- A time of day; only what follows it is of interest. -/
def skipTime? (text : List Char) : Option (List Char) := do
  let (hour, text) ← fixedDigits 2 text
  let (minute, text) ← fixedDigits 2 (← expect ':' text)
  let (second, text) ← fixedDigits 2 (← expect ':' text)
  if hour < 24 ∧ minute < 60 ∧ second < 60 then some (skipFraction text) else none

/-- An offset from universal time, if there is one. -/
def skipOffset (text : List Char) : List Char :=
  match text with
  | c :: rest =>
    if c = 'Z' ∨ c = 'z' then rest
    else if c = '+' ∨ c = '-' then
      let after : Option (List Char) := do
        let (hour, text) ← fixedDigits 2 rest
        let (minute, text) ← fixedDigits 2 (← expect ':' text)
        if hour < 24 ∧ minute < 60 then some text else none
      after.getD text
    else text
  | [] => []

/-- The four, two and two digits of a date, with a month and a day that may exist. -/
def readDate? (text : List Char) : Option (Date × List Char) := do
  let (year, text) ← fixedDigits 4 text
  let (month, text) ← fixedDigits 2 (← expect '-' text)
  let (day, text) ← fixedDigits 2 (← expect '-' text)
  if 1 ≤ month ∧ month ≤ 12 ∧ 1 ≤ day ∧ day ≤ 31 then some ({ year := year, month := month, day := day }, text)
  else none

/-- The time behind a date, with its offset, if there is one. -/
def skipTimeOfDate (text : List Char) : List Char :=
  match text with
  | c :: rest =>
    if c = 'T' ∨ c = 't' ∨ c = ' ' then
      match skipTime? rest with
      | some after => skipOffset after
      | none => text
    else text
  | [] => []

/-- The characters between a text and what follows it. -/
def between (text rest : List Char) : String := String.ofList (text.take (text.length - rest.length))

/-- **A moment**, unless the text does not start with one; a date that the calendar lacks is malformed. -/
def moment? (text : List Char) : Option (Except Failure (Reading Value)) :=
  match readDate? text with
  | some (date, after) =>
    let rest := skipTimeOfDate after
    some (if date.isValid then .ok (.moment (between text rest), rest) else malformed)
  | none => (skipTime? text).map fun rest => .ok (.moment (between text rest), rest)

/-! ## Numbers -/

/-- Further digits, single underscores before any of them. -/
def moreDigits (isDigit : Char → Bool) : List Char → List Char × List Char
  | '_' :: c :: rest =>
    if isDigit c then
      let (digits, after) := moreDigits isDigit rest
      (c :: digits, after)
    else ([], '_' :: c :: rest)
  | c :: rest =>
    if isDigit c then
      let (digits, after) := moreDigits isDigit rest
      (c :: digits, after)
    else ([], c :: rest)
  | [] => ([], [])

/-- Digits with underscores between them, at least one. -/
def digits? (isDigit : Char → Bool) : List Char → Option (List Char × List Char)
  | c :: rest =>
    if isDigit c then
      let (more, after) := moreDigits isDigit rest
      some (c :: more, after)
    else none
  | [] => none

def naturalInBase (base : Nat) (digits : List Char) : Nat :=
  digits.foldl (fun n c => base * n + (Hex.nibble? c).getD 0) 0

/-- The base that a letter behind a zero stands for. -/
def baseOf : Char → Option (Nat × (Char → Bool))
  | 'x' => some (16, fun c => (Hex.nibble? c).isSome)
  | 'o' => some (8, fun c => '0' ≤ c && c ≤ '7')
  | 'b' => some (2, fun c => c == '0' || c == '1')
  | _ => none

def based? : List Char → Option (Int × List Char)
  | '0' :: letter :: rest => do
    let (base, isDigit) ← baseOf letter
    let (digits, after) ← digits? isDigit rest
    return ((naturalInBase base digits : Nat), after)
  | _ => none

/-- The whole part of a decimal: a zero, or digits that start with none. -/
def wholePart? : List Char → Option (List Char × List Char)
  | '0' :: rest => some (['0'], rest)
  | text => digits? Char.isDigit text

def fraction (text : List Char) : List Char × List Char :=
  match text with
  | '.' :: rest => (digits? Char.isDigit rest).getD ([], text)
  | _ => ([], text)

def exponent? (text : List Char) : Option (Int × List Char) :=
  match text with
  | c :: rest =>
    if c = 'e' ∨ c = 'E' then do
      let (negative, rest) := Double.splitSign rest
      let (digits, after) ← digits? Char.isDigit rest
      return (if negative then -(naturalOfDigits digits : Int) else naturalOfDigits digits, after)
    else none
  | [] => none

def maxDigits : Nat := 4300

/-- A decimal: an integer, or a double if a fraction or an exponent follows. -/
def decimal? (text : List Char) : Option (Except Failure (Reading Value)) := do
  let (negative, body) := Double.splitSign text
  let (whole, rest) ← wholePart? body
  let (places, rest) := fraction rest
  match exponent? rest, places with
  | none, [] =>
    if maxDigits < whole.length then some (.error (.tooManyDigits whole.length))
    else
      let n : Int := naturalOfDigits whole
      some (.ok (.int (if negative then -n else n), rest))
  | none, places =>
    some (.ok (.float (Double.ofDecimal negative (naturalOfDigits (whole ++ places)) (-places.length)), rest))
  | some (exponent, rest), places =>
    let digits := naturalOfDigits (whole ++ places)
    some (.ok (.float (Double.ofDecimal negative digits (exponent - places.length)), rest))

/-- The doubles that are no numbers. -/
def special? (text : List Char) : Option (Value × List Char) :=
  let (negative, body) := Double.splitSign text
  match body with
  | 'i' :: 'n' :: 'f' :: rest => some (.float (.infinite negative), rest)
  | 'n' :: 'a' :: 'n' :: rest => some (.float .nan, rest)
  | _ => none

def number (text : List Char) : Except Failure (Reading Value) :=
  match based? text with
  | some (n, rest) => .ok (.int n, rest)
  | none =>
    match decimal? text with
    | some reading => reading
    | none =>
      match special? text with
      | some found => .ok found
      | none => malformed

end Toml
end PasswordGate
