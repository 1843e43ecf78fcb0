import PasswordGate.Bytes.Hex
/-!
# Lexemes — blanks, comments, keys and strings of a settings document

Each reader takes the text from where it stands and gives back what it read and the text behind it.  Controls other
than the tab are illegal everywhere, but for line feeds in strings that span lines.
-/
namespace PasswordGate
namespace Toml

inductive Failure
  | malformed
  | tooManyDigits (count : Nat)
  deriving DecidableEq, Repr

/-- What a reader gives back: a value and the text behind it. -/
abbrev Reading (α : Type) := α × List Char

def malformed {α : Type} : Except Failure α := .error .malformed

def isBlank (c : Char) : Bool := c == ' ' || c == '\t'

def isBlankOrNewline (c : Char) : Bool := isBlank c || c == '\n'

/-- A control that may not stand in a line. -/
def isIllegal (c : Char) : Bool := (c.toNat < 32 && c != '\t') || c.toNat == 127

def skipBlanks (text : List Char) : List Char := text.dropWhile isBlank

def skipComment : List Char → Except Failure (List Char)
  | '#' :: rest =>
    if (rest.takeWhile (· != '\n')).any isIllegal then malformed else .ok (rest.dropWhile (· != '\n'))
  | text => .ok text

/-- Blanks, newlines and comments; the fuel counts the comments. -/
def skipBetween : Nat → List Char → Except Failure (List Char)
  | 0, text => .ok text
  | fuel + 1, text =>
    match text.dropWhile isBlankOrNewline with
    | '#' :: rest => do skipBetween fuel (← skipComment ('#' :: rest))
    | rest => .ok rest

/-! ## Strings -/

/-- The number that so many hexadecimal digits spell. -/
def hexNumber? (digits : List Char) : Option Nat :=
  digits.foldlM (fun n c => (Hex.nibble? c).map (16 * n + ·)) 0

/-- The character that a number in so many hexadecimal digits stands for. -/
def scalar (width : Nat) (text : List Char) : Except Failure (Reading (List Char)) :=
  if text.length < width then malformed
  else
    match hexNumber? (text.take width) with
    | none => malformed
    | some n =>
      if n < 0xD800 ∨ (0xE000 ≤ n ∧ n < 0x110000) then .ok ([Char.ofNat n], text.drop width) else malformed

/-- **What stands behind a backslash**; across lines, a backslash at the end of one swallows the white space up to the
next character. -/
def escape (multiline : Bool) : List Char → Except Failure (Reading (List Char))
  | 'u' :: rest => scalar 4 rest
  | 'U' :: rest => scalar 8 rest
  | 'b' :: rest => .ok (['\x08'], rest)
  | 't' :: rest => .ok (['\t'], rest)
  | 'n' :: rest => .ok (['\n'], rest)
  | 'f' :: rest => .ok (['\x0c'], rest)
  | 'r' :: rest => .ok (['\r'], rest)
  | '"' :: rest => .ok (['"'], rest)
  | '\\' :: rest => .ok (['\\'], rest)
  | c :: rest =>
    if multiline ∧ isBlankOrNewline c then
      match skipBlanks (c :: rest) with
      | [] => .ok ([], [])
      | '\n' :: after => .ok ([], after.dropWhile isBlankOrNewline)
      | _ => malformed
    else malformed
  | [] => malformed

def prepend (chars : List Char) : Except Failure (Reading (List Char)) → Except Failure (Reading (List Char))
  | .ok (text, rest) => .ok (chars ++ text, rest)
  | .error e => .error e

/-- The rest of a basic string, its opening quotes taken off; every step takes a character, which the fuel counts. -/
def basic (multiline : Bool) : Nat → List Char → Except Failure (Reading (List Char))
  | 0, _ => malformed
  | _, [] => malformed
  | fuel + 1, '"' :: rest =>
    if !multiline then .ok ([], rest)
    else
      match rest with
      | '"' :: '"' :: after => .ok ([], after)
      | _ => prepend ['"'] (basic multiline fuel rest)
  | fuel + 1, '\\' :: rest => do
    let (chars, rest) ← escape multiline rest
    prepend chars (basic multiline fuel rest)
  | fuel + 1, c :: rest =>
    if isIllegal c ∧ !(multiline ∧ c = '\n') then malformed else prepend [c] (basic multiline fuel rest)

def literal (text : List Char) : Except Failure (Reading (List Char)) :=
  match text.dropWhile (· != '\x27') with
  | '\x27' :: rest =>
    if (text.takeWhile (· != '\x27')).any isIllegal then malformed else .ok (text.takeWhile (· != '\x27'), rest)
  | _ => malformed

/-- The text up to three single quotes, and what follows them. -/
def splitTriple : List Char → Option (List Char × List Char)
  | '\x27' :: '\x27' :: '\x27' :: rest => some ([], rest)
  | c :: rest => (splitTriple rest).map fun (text, after) => (c :: text, after)
  | [] => none

/-- Up to two further quotes behind the closing three belong to the string. -/
def furtherQuotes (quote : Char) (text rest : List Char) : List Char × List Char :=
  match rest with
  | c :: d :: after =>
    if c = quote ∧ d = quote then (text ++ [quote, quote], after)
    else if c = quote then (text ++ [quote], d :: after)
    else (text, rest)
  | [c] => if c = quote then (text ++ [quote], []) else (text, rest)
  | [] => (text, [])

def dropNewline : List Char → List Char
  | '\n' :: rest => rest
  | text => text

def multilineBasic (text : List Char) : Except Failure (Reading (List Char)) := do
  let (chars, rest) ← basic true (dropNewline text).length (dropNewline text)
  return furtherQuotes '"' chars rest

def multilineLiteral (text : List Char) : Except Failure (Reading (List Char)) :=
  match splitTriple (dropNewline text) with
  | none => malformed
  | some (chars, rest) =>
    if chars.any fun c => isIllegal c && c != '\n' then malformed else .ok (furtherQuotes '\x27' chars rest)

def lineBasic (text : List Char) : Except Failure (Reading (List Char)) := basic false text.length text

/-! ## Keys -/

def isBareKey (c : Char) : Bool := c.isAlphanum || c == '-' || c == '_'

def startsKey (c : Char) : Bool := isBareKey c || c == '"' || c == '\x27'

def keyPart : List Char → Except Failure (Reading String)
  | '"' :: rest => do
    let (chars, rest) ← lineBasic rest
    return (String.ofList chars, rest)
  | '\x27' :: rest => do
    let (chars, rest) ← literal rest
    return (String.ofList chars, rest)
  | text =>
    let bare := text.takeWhile isBareKey
    if bare = [] then malformed else .ok (String.ofList bare, text.dropWhile isBareKey)

/-- **A key**: parts with points between them, and blanks around the points; the fuel counts the parts. -/
def key : Nat → List Char → Except Failure (Reading (List String))
  | 0, _ => malformed
  | fuel + 1, text => do
    let (part, rest) ← keyPart text
    match skipBlanks rest with
    | '.' :: more => do
      let (parts, rest) ← key fuel (skipBlanks more)
      return (part :: parts, rest)
    | rest => return ([part], rest)

end Toml
end PasswordGate
