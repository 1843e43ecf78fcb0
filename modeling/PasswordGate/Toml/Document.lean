import PasswordGate.Toml.Scalar
import PasswordGate.Toml.Table
/-!
# Document — a settings document as its table

A document is a row of statements, one a line: a key with its value, the header of a table, the header of a further table
of a list, a comment, or nothing.  `read` gives the document's table.

A header may not open a table twice, nor one that an inline value stands at; a dotted key may not reach into a table that
has a header of its own, and no key is given twice.
-/
namespace PasswordGate
namespace Toml

def textValue (reading : Except Failure (Reading (List Char))) : Except Failure (Reading Value) :=
  match reading with
  | .ok (chars, rest) => .ok (.text (String.ofList chars), rest)
  | .error e => .error e

def required {α : Type} : Option α → Except Failure α
  | some value => .ok value
  | none => malformed

mutual

/-- **A value.**  Every reader of the group passes on less fuel than it has. -/
def value : Nat → List Char → Except Failure (Reading Value)
  | 0, _ => malformed
  | fuel + 1, text =>
    match text with
    | '"' :: '"' :: '"' :: rest => textValue (multilineBasic rest)
    | '"' :: rest => textValue (lineBasic rest)
    | '\x27' :: '\x27' :: '\x27' :: rest => textValue (multilineLiteral rest)
    | '\x27' :: rest => textValue (literal rest)
    | 't' :: 'r' :: 'u' :: 'e' :: rest => .ok (.bool true, rest)
    | 'f' :: 'a' :: 'l' :: 's' :: 'e' :: rest => .ok (.bool false, rest)
    | '[' :: rest => do
      match ← skipBetween rest.length rest with
      | ']' :: rest => return (.list [], rest)
      | rest => do
        let (items, rest) ← items fuel rest
        return (.list items, rest)
    | '\x7b' :: rest =>
      match skipBlanks rest with
      | '\x7d' :: rest => .ok (.dict [], rest)
      | rest => do
        let (entries, rest) ← members fuel [] {} rest
        return (.dict entries, rest)
    | text =>
      match moment? text with
      | some reading => reading
      | none => number text

def items : Nat → List Char → Except Failure (Reading (List Value))
  | 0, _ => malformed
  | fuel + 1, text => do
    let (item, rest) ← value fuel text
    match ← skipBetween rest.length rest with
    | ']' :: rest => return ([item], rest)
    | ',' :: rest => do
      match ← skipBetween rest.length rest with
      | ']' :: rest => return ([item], rest)
      | rest => do
        let (others, rest) ← items fuel rest
        return (item :: others, rest)
    | _ => malformed

def members : Nat → Entries → Marks → List Char → Except Failure (Reading Entries)
  | 0, _, _, _ => malformed
  | fuel + 1, entries, marks, text => do
    let (path, found, rest) ← pair fuel text
    if marks.isFrozen path then malformed
    else
      let entries ← required (modify false path.dropLast (addEntry (path.getLastD "") found) entries)
      match skipBlanks rest with
      | '\x7d' :: rest => return (entries, rest)
      | ',' :: rest =>
        members fuel entries (if isClosed found then marks.freeze path else marks) (skipBlanks rest)
      | _ => malformed

def pair : Nat → List Char → Except Failure (Path × Value × List Char)
  | 0, _ => malformed
  | fuel + 1, text => do
    let (path, rest) ← key text.length text
    match rest with
    | '=' :: rest => do
      let (found, rest) ← value fuel (skipBlanks rest)
      return (path, found, rest)
    | _ => malformed

end

/-- A document that is being read: its table so far, its marks, and the path of the last header. -/
structure Draft where
  entries : Entries := []
  marks : Marks := {}
  header : Path := []

namespace Draft

/-- The paths of the tables that a dotted key leads through. -/
def through (header path : Path) : List Path :=
  (List.range (path.length - 1)).map fun i => header ++ path.take (i + 1)

/-- **A key with its value**, below the last header. -/
def assign (d : Draft) (path : Path) (found : Value) : Except Failure Draft := do
  let passed := through d.header path
  if passed.any d.marks.isOpened then malformed
  else
    let marks := passed.foldl Marks.await d.marks
    let parent := d.header ++ path.dropLast
    if marks.isFrozen parent then malformed
    else
      let entries ← required (modify true parent (addEntry (path.getLastD "") found) d.entries)
      return { d with
        entries := entries, marks := if isClosed found then marks.freeze (d.header ++ path) else marks }

def openTable (d : Draft) (path : Path) : Except Failure Draft := do
  let marks := d.marks.settle
  if marks.isOpened path || marks.isFrozen path then malformed
  else
    let entries ← required (modify true path some d.entries)
    return { entries := entries, marks := marks.openAt path, header := path }

def openListTable (d : Draft) (path : Path) : Except Failure Draft := do
  let marks := d.marks.settle
  if marks.isFrozen path then malformed
  else
    let entries ← required (modify true path.dropLast (addTable (path.getLastD "")) d.entries)
    return { entries := entries, marks := (marks.clear path).openAt path, header := path }

end Draft

def header (d : Draft) : List Char → Except Failure (Reading Draft)
  | '[' :: rest => do
    let (path, rest) ← key rest.length (skipBlanks rest)
    let d ← d.openListTable path
    match rest with
    | ']' :: ']' :: rest => return (d, rest)
    | _ => malformed
  | rest => do
    let (path, rest) ← key rest.length (skipBlanks rest)
    let d ← d.openTable path
    match rest with
    | ']' :: rest => return (d, rest)
    | _ => malformed

/-- A statement, if the line has one, and what follows it. -/
def statement (d : Draft) (text : List Char) : Except Failure (Reading Draft) :=
  match text with
  | [] => .ok (d, [])
  | c :: rest =>
    if c = '[' then header d rest
    else if startsKey c then do
      let (path, found, rest) ← pair (2 * text.length + 2) text
      return (← d.assign path found, rest)
    else if c = '#' ∨ c = '\n' then .ok (d, text)
    else malformed

/-- The statements from here on; every line takes a character, which the fuel counts. -/
def statements : Nat → Draft → List Char → Except Failure Draft
  | 0, d, _ => .ok d
  | fuel + 1, d, text => do
    let (d, rest) ← statement d (skipBlanks text)
    match ← skipComment (skipBlanks rest) with
    | [] => return d
    | '\n' :: rest => statements fuel d rest
    | _ => malformed

/-- Line ends are line feeds; a carriage return before one goes. -/
def unifyNewlines : List Char → List Char
  | '\r' :: '\n' :: rest => '\n' :: unifyNewlines rest
  | c :: rest => c :: unifyNewlines rest
  | [] => []

def read (text : String) : Except Failure Entries := do
  let chars := unifyNewlines text.toList
  return (← statements (chars.length + 1) {} chars).entries

end Toml
end PasswordGate
