import PasswordGate.Bytes.Hex
import PasswordGate.Text.Printable
/-!
# Quoted — text and octets as literals

A literal stands between single quotes, or between double ones when it holds single quotes and no double ones.  The
backslash, the quote in use, tab, line feed and carriage return are escaped by a backslash; any other character that
does not show as itself is written by its number, in two, four or eight hexadecimal digits.  In a literal of octets only
printable ASCII shows as itself; in one of mutable storage a single quote is escaped whatever quotes stand around.
-/
namespace PasswordGate
namespace Quoted

def hexDigits (width n : Nat) : List Char :=
  (List.range width).reverse.map fun i => Hex.digit (n / Nat.pow 16 i % 16)

/-- A character by its number, in the fewest of two, four or eight digits. -/
def byNumber (c : Char) : List Char :=
  if c.toNat < 0x100 then '\\' :: 'x' :: hexDigits 2 c.toNat
  else if c.toNat < 0x10000 then '\\' :: 'u' :: hexDigits 4 c.toNat
  else '\\' :: 'U' :: hexDigits 8 c.toNat

def quoteFor (text : List Char) : Char :=
  if text.contains '\x27' && !text.contains '"' then '"' else '\x27'

/-- A character inside a literal, given which characters show as themselves and which quote is escaped. -/
def inside (shows : Char → Bool) (escaped c : Char) : List Char :=
  if c = '\\' ∨ c = escaped then ['\\', c]
  else if c = '\t' then ['\\', 't']
  else if c = '\n' then ['\\', 'n']
  else if c = '\r' then ['\\', 'r']
  else if shows c then [c]
  else byNumber c

/-- A literal, given which characters show as themselves. -/
def literal (shows : Char → Bool) (text : List Char) : List Char :=
  let quote := quoteFor text
  quote :: text.flatMap (inside shows quote) ++ [quote]

def ofText (text : String) : String := String.ofList (literal isPrintable text.toList)

def isPlain (c : Char) : Bool := 32 ≤ c.toNat && c.toNat < 127

def characters (data : Bytes) : List Char := data.map fun b => Char.ofNat b.toNat

def ofBytes (data : Bytes) : String := "b" ++ String.ofList (literal isPlain (characters data))

def ofStorage (data : Bytes) : String :=
  let chars := characters data
  let quote := quoteFor chars
  "b" ++ String.ofList (quote :: chars.flatMap (inside isPlain '\x27') ++ [quote])

/-- A text with its characters outside ASCII written by their numbers. -/
def asciiOnly (text : String) : String :=
  String.ofList (text.toList.flatMap fun c => if c.toNat < 128 then [c] else byNumber c)

end Quoted
end PasswordGate
