import PasswordGate.Number.Fixed
import PasswordGate.Value.Literal
/-!
# Template — a message with places for its arguments

A place starts with a percent sign: an optional key in parentheses, flags, a width, a precision, a size letter that means
nothing, and a conversion letter.  `pieces` cuts a template into texts and places without looking at any argument;
`render` fills the places in order.  Arguments are a row, used up one by one, or a single value; a place with a key takes
its argument from a mapping.  What is left over at the end is refused, unless the arguments are a mapping.
-/
namespace PasswordGate
namespace Template

/-- A width or a precision: absent, written out, or taken from the arguments. -/
inductive Measure
  | absent
  | written (n : Nat)
  | argument
  deriving DecidableEq, Repr

structure Flags where
  leftAlign : Bool := false
  plus : Bool := false
  space : Bool := false
  alternate : Bool := false
  zero : Bool := false
  deriving DecidableEq, Repr

/-- The key of a place: none, a closed one, or one that is never closed. -/
inductive Key
  | absent
  | named (name : String)
  | unclosed
  deriving DecidableEq, Repr

/-- **A place**; without a conversion letter it is incomplete. -/
structure Place where
  key : Key
  flags : Flags
  width : Measure
  precision : Measure
  conversion : Option Char
  deriving DecidableEq, Repr

inductive Piece
  | text (chars : List Char)
  | place (p : Place)
  deriving DecidableEq, Repr

inductive Error
  | notEnoughArguments
  | unusedArguments
  | needsMapping
  | noSuchKey (name : String)
  | notAMapping
  | unclosedKey
  | incomplete
  | unsupported (conversion : Char)
  | measureTooBig
  | measureNotInteger
  | measureOverflow
  | notANumber (conversion : Char)
  | notAnInteger (conversion : Char)
  | notFinite (nan : Bool)
  | integerTooLarge
  | notACharacter
  | characterOutOfRange
  | loneSurrogate
  deriving DecidableEq, Repr

/-! ## Cutting -/

/-- The text up to the parenthesis that closes a key, and what follows it. -/
def splitKey (depth : Nat) : List Char → Option (List Char × List Char)
  | [] => none
  | c :: rest =>
    if c = ')' then
      if depth = 0 then some ([], rest) else (splitKey (depth - 1) rest).map fun (key, after) => (c :: key, after)
    else (splitKey (if c = '(' then depth + 1 else depth) rest).map fun (key, after) => (c :: key, after)

def isFlag (c : Char) : Bool := c == '-' || c == '+' || c == ' ' || c == '#' || c == '0'

def flagsOf (chars : List Char) : Flags :=
  { leftAlign := chars.contains '-', plus := chars.contains '+', space := chars.contains ' '
    alternate := chars.contains '#', zero := chars.contains '0' }

def natural (digits : List Char) : Nat := digits.foldl (fun n c => 10 * n + (c.toNat - 48)) 0

def splitMeasure : List Char → Measure × List Char
  | '*' :: rest => (.argument, rest)
  | chars =>
    let digits := chars.takeWhile Char.isDigit
    (if digits = [] then .absent else .written (natural digits), chars.dropWhile Char.isDigit)

def splitPrecision : List Char → Measure × List Char
  | '.' :: rest =>
    let (measure, after) := splitMeasure rest
    (if measure = .absent then .written 0 else measure, after)
  | chars => (.absent, chars)

def dropSizeLetter : List Char → List Char
  | c :: rest => if c = 'h' ∨ c = 'l' ∨ c = 'L' then rest else c :: rest
  | [] => []

/-- The part of a place behind its key, and what follows the place. -/
def splitBody (key : Key) (chars : List Char) : Place × List Char :=
  let flags := flagsOf (chars.takeWhile isFlag)
  let (width, chars) := splitMeasure (chars.dropWhile isFlag)
  let (precision, chars) := splitPrecision chars
  match dropSizeLetter chars with
  | [] => ({ key := key, flags := flags, width := width, precision := precision, conversion := none }, [])
  | c :: rest => ({ key := key, flags := flags, width := width, precision := precision, conversion := some c }, rest)

/-- The place behind a percent sign, and what follows it. -/
def splitPlace : List Char → Place × List Char
  | '(' :: rest =>
    match splitKey 0 rest with
    | some (key, after) => splitBody (.named (String.ofList key)) after
    | none => ({ key := .unclosed, flags := {}, width := .absent, precision := .absent, conversion := none }, [])
  | chars => splitBody .absent chars

/-- **The pieces of a template.** Every piece takes at least one character, which the fuel counts. -/
def piecesFrom : Nat → List Char → List Piece
  | 0, _ => []
  | _, [] => []
  | fuel + 1, '%' :: '%' :: rest => .text ['%'] :: piecesFrom fuel rest
  | fuel + 1, '%' :: rest =>
    let (place, after) := splitPlace rest
    .place place :: piecesFrom fuel after
  | fuel + 1, c :: rest => .text [c] :: piecesFrom fuel rest

def pieces (template : List Char) : List Piece := piecesFrom template.length template

/-! ## Arguments -/

/-- The arguments that are left: a row, a single value, or none because the single value is used up. -/
inductive Supply
  | row (rest : List Value)
  | single (value : Value)
  | spent

/-- A row is a tuple; anything else is a single value. -/
def Supply.ofValue : Value → Supply
  | .tuple items => .row items
  | value => .single value

/-- Values that can be asked for a key: a dictionary, and sequences, which refuse every key. -/
def isMapping : Value → Bool
  | .dict _ | .list _ | .octets _ | .storage _ | .view _ _ | .wordView _ _ => true
  | _ => false

def Supply.next : Supply → Except Error (Value × Supply)
  | .row (value :: rest) => .ok (value, .row rest)
  | .single value => .ok (value, .spent)
  | .row [] | .spent => .error .notEnoughArguments

def Supply.leftOver : Supply → Bool
  | .row rest => !rest.isEmpty
  | .single _ => true
  | .spent => false

def underKey (arguments : Value) (key : String) : Except Error Value :=
  match arguments with
  | .dict entries =>
    match entries.lookup key with
    | some value => .ok value
    | none => .error (.noSuchKey key)
  | _ => .error .notAMapping

/-! ## Filling -/

/-- A sign, a marker of the base, and the digits or the text itself. -/
structure Body where
  sign : String := ""
  marker : String := ""
  text : String

def signOf (flags : Flags) (negative : Bool) : String :=
  if negative then "-" else if flags.plus then "+" else if flags.space then " " else ""

/-- **A body brought to a width**: with zeros between the sign and the digits, or with spaces outside. -/
def pad (flags : Flags) (zeros : Bool) (width : Nat) (body : Body) : String :=
  let missing := width - (body.sign.length + body.marker.length + body.text.length)
  let fill (c : Char) : String := String.ofList (List.replicate missing c)
  if flags.leftAlign then body.sign ++ body.marker ++ body.text ++ fill ' '
  else if zeros then body.sign ++ body.marker ++ fill '0' ++ body.text
  else fill ' ' ++ body.sign ++ body.marker ++ body.text

def wholeNumber (conversion : Char) (value : Value) : Except Error Int :=
  match value with
  | .float x =>
    if conversion = 'o' ∨ conversion = 'x' ∨ conversion = 'X' then .error (.notAnInteger conversion)
    else
      match x.truncate? with
      | some n => .ok n
      | none => .error (.notFinite (x == .nan))
  | value =>
    match value.integer? with
    | some n => .ok n
    | none => .error (.notANumber conversion)

def realNumber (conversion : Char) (value : Value) : Except Error Double :=
  match value with
  | .float x => .ok x
  | value =>
    match value.integer? with
    | none => .error (.notANumber conversion)
    | some n =>
      match Double.ofInt n with
      | .infinite _ => .error .integerTooLarge
      | x => .ok x

def upperCase (s : String) : String := String.ofList (s.toList.map Char.toUpper)

/-- An integer in the base of its conversion, with at least so many digits. -/
def integerBody (flags : Flags) (precision : Nat) (conversion : Char) (n : Int) : Body :=
  let base := if conversion = 'o' then 8 else if conversion = 'x' ∨ conversion = 'X' then 16 else 10
  let digits := FloatStyle.padLeft precision (String.ofList (Nat.toDigits base n.natAbs))
  { sign := signOf flags (n < 0)
    marker := if flags.alternate ∧ base ≠ 10 then String.ofList ['0', conversion] else ""
    text := if conversion = 'X' then upperCase digits else digits }

def realBody (flags : Flags) (precision : Nat) (conversion : Char) (x : Double) : Body :=
  let finish (text : String) : String := if conversion.isUpper then upperCase text else text
  match x with
  | .nan => { sign := signOf flags false, text := finish "nan" }
  | .infinite negative => { sign := signOf flags negative, text := finish "inf" }
  | .finite negative mantissa exponent =>
    let (num, den) := Double.ratio mantissa exponent
    let text :=
      match conversion.toLower with
      | 'f' => Fixed.places num den precision flags.alternate
      | 'e' => Fixed.scientific num den precision flags.alternate
      | _ => Fixed.general num den precision flags.alternate
    { sign := signOf flags negative, text := finish text }

/-- The one character of a value; half of a surrogate pair is one, but no text can hold it. -/
def character (value : Value) : Except Error (Option String) :=
  match value with
  | .text s => if s.length = 1 then .ok (some s) else .error .notACharacter
  | value =>
    match value.integer? with
    | none => .error .notACharacter
    | some n =>
      if n < 0 ∨ 0x10FFFF < n then .error .characterOutOfRange
      else if 0xD800 ≤ n ∧ n < 0xE000 then .ok none
      else .ok (some (String.singleton (Char.ofNat n.toNat)))

def isTextual (c : Char) : Bool := c == 's' || c == 'r' || c == 'a'
def isIntegral (c : Char) : Bool := c == 'd' || c == 'i' || c == 'u' || c == 'o' || c == 'x' || c == 'X'
def isReal (c : Char) : Bool := c == 'e' || c == 'E' || c == 'f' || c == 'F' || c == 'g' || c == 'G'

def textual (conversion : Char) (value : Value) : String :=
  if conversion = 's' then value.inWords
  else if conversion = 'r' then value.literal
  else Quoted.asciiOnly value.literal

/-- **An argument in the form that a place asks for**; nothing, if no text can hold it. -/
def convert (flags : Flags) (width : Nat) (precision : Option Nat) (conversion : Char) (value : Value) :
    Except Error (Option String) :=
  if isTextual conversion then
    let text := textual conversion value
    let cut := match precision with
      | none => text
      | some count => String.ofList (text.toList.take count)
    .ok (some (pad flags false width { text := cut }))
  else if isIntegral conversion then do
    let n ← wholeNumber conversion value
    return some (pad flags flags.zero width (integerBody flags (precision.getD 0) conversion n))
  else if isReal conversion then do
    let x ← realNumber conversion value
    return some (pad flags flags.zero width (realBody flags (precision.getD 6) conversion x))
  else if conversion = 'c' then do
    return (← character value).map fun text => pad flags false width { text := text }
  else .error (.unsupported conversion)

/-- A measure that is written out, or the integer in the arguments that it is taken from. -/
def measure (bound : Int) (m : Measure) (supply : Supply) : Except Error (Option Int × Supply) :=
  match m with
  | .absent => .ok (none, supply)
  | .written n => if bound < n then .error .measureTooBig else .ok (some n, supply)
  | .argument => do
    let (value, supply) ← supply.next
    match value.integer? with
    | none => throw .measureNotInteger
    | some n => if n < -bound - 1 ∨ bound < n then throw .measureOverflow else return (some n, supply)

/-- The supply that a key leaves: the value under it, as a single argument. -/
def keyed (arguments : Value) (key : Key) (supply : Supply) : Except Error Supply :=
  match key with
  | .absent => .ok supply
  | .named name => if isMapping arguments then (underKey arguments name).map .single else .error .needsMapping
  | .unclosed => if isMapping arguments then .error .unclosedKey else .error .needsMapping

def fill (arguments : Value) (place : Place) (supply : Supply) : Except Error (Option String × Supply) := do
  let supply ← keyed arguments place.key supply
  let (width, supply) ← measure 9223372036854775807 place.width supply
  let (precision, supply) ← measure 2147483647 place.precision supply
  let flags := if (width.getD 0) < 0 then { place.flags with leftAlign := true } else place.flags
  match place.conversion with
  | none => throw .incomplete
  | some conversion =>
    let (value, supply) ← supply.next
    let text ← convert flags (width.getD 0).natAbs (precision.map Int.toNat) conversion value
    if isMapping arguments ∧ supply.leftOver then throw .unusedArguments
    return (text, supply)

def joined (first second : Option String) : Option String := do return (← first) ++ (← second)

def fillAll (arguments : Value) : List Piece → Supply → Except Error (Option String)
  | [], supply => if supply.leftOver ∧ !isMapping arguments then .error .unusedArguments else .ok (some "")
  | .text chars :: rest, supply => do return joined (some (String.ofList chars)) (← fillAll arguments rest supply)
  | .place place :: rest, supply => do
    let (text, supply) ← fill arguments place supply
    return joined text (← fillAll arguments rest supply)

/-- **A template with its places filled.** -/
def render (template : String) (arguments : Value) : Except Error String := do
  match ← fillAll arguments (pieces template.toList) (.ofValue arguments) with
  | some text => return text
  | none => throw .loneSurrogate

end Template
end PasswordGate
