import PasswordGate.Text.Digit
import PasswordGate.Text.Quoted
/-!
# Arguments — the command line of the inspection tool

Two positional arguments, a kind and a text, and two options, `--json` and `-h` or `--help`.  An option may be
shortened as long as it is clear which one is meant.  What starts with a dash is an option, unless it is a dash alone,
looks like a negative number or holds a space; behind `--` everything is positional.

`tokens` tells options and arguments apart, and refuses what is ambiguous; `consume` then takes them in order, options
as they come and as many positionals at a time as stand together.  Help and a wrong kind end the reading where they
stand; what is missing or left over is noticed at the end.
-/
namespace PasswordGate
namespace Arguments

inductive Flag
  | help
  | json
  deriving DecidableEq, Repr

def spellings : List (String × Flag) := [("-h", .help), ("--help", .help), ("--json", .json)]

def Flag.display : Flag → String
  | help => "-h/--help"
  | json => "--json"

/-- What is attached to an option in the same word. -/
inductive Attached
  | nothing
  | glued (text : List Char)
  | assigned (text : String)
  deriving DecidableEq, Repr

inductive Token
  | argument (text : String)
  | separator
  | option (flag : Flag) (attached : Attached)
  | unknown (text : String)
  deriving DecidableEq, Repr

inductive Stop
  | help
  | ambiguous (word : String) (candidates : List String)
  | ignoredArgument (flag : Flag) (text : String)
  | invalidKind (text : String)
  | missing (names : List String)
  | unrecognized (words : List String)
  | textSwallowed
  deriving DecidableEq, Repr

/-! ## Telling words apart -/

/-- The parts of a word before and behind its first equals sign. -/
def splitAssignment (word : List Char) : List Char × Option (List Char) :=
  match word.dropWhile (· != '=') with
  | _ :: value => (word.takeWhile (· != '='), some value)
  | [] => (word, none)

def isDecimal (c : Char) : Bool := (decimalValue? c).isSome

/-- A negative number: digits, or a point with digits behind it; a line feed may follow. -/
def isNegativeNumber (word : List Char) : Bool :=
  match word with
  | '-' :: body =>
    let body := if body.getLast? = some '\n' then body.dropLast else body
    match body.dropWhile isDecimal with
    | [] => !body.isEmpty
    | '.' :: places => !places.isEmpty && places.all isDecimal
    | _ => false
  | _ => false

def attachedOf : Option (List Char) → Attached
  | none => .nothing
  | some value => .assigned (String.ofList value)

/-- A word that starts with a dash and is longer than one. -/
def dashed (word : String) : Except Stop Token :=
  let chars := word.toList
  let (name, value) := splitAssignment chars
  match spellings.lookup word, spellings.lookup (String.ofList name) with
  | some flag, _ => .ok (.option flag .nothing)
  | none, some flag => .ok (.option flag (attachedOf value))
  | none, none =>
    let found :=
      if chars.take 2 = ['-', '-'] then
        (spellings.filter fun entry => name.isPrefixOf entry.1.toList).map fun entry => (entry, attachedOf value)
      else
        (spellings.filter fun entry => entry.1.toList = chars.take 2).map fun entry =>
          (entry, Attached.glued (chars.drop 2))
    match found with
    | [((_, flag), attached)] => .ok (.option flag attached)
    | [] => .ok (if isNegativeNumber chars || chars.contains ' ' then .argument word else .unknown word)
    | _ => .error (.ambiguous word (found.map fun candidate => candidate.1.1))

def token (word : String) : Except Stop Token :=
  match word.toList with
  | '-' :: _ :: _ => dashed word
  | _ => .ok (.argument word)

/-- **The words of a command line told apart.** -/
def tokens : List String → Except Stop (List Token)
  | [] => .ok []
  | word :: rest =>
    if word = "--" then .ok (.separator :: rest.map .argument)
    else do
      let first ← token word
      return first :: (← tokens rest)

/-! ## Taking them in order -/

/-- What has been taken so far; a text that was taken may have been swallowed as a separator. -/
structure Taken where
  kind : Option String := none
  text : Option (Option String) := none
  json : Bool := false
  extras : List String := []
  deriving DecidableEq, Repr

def Token.isOption : Token → Bool
  | option _ _ | unknown _ => true
  | _ => false

def Token.word : Token → String
  | argument text | unknown text => text
  | separator => "--"
  | option flag _ => flag.display

/-- One argument with the separators around it, and what follows. -/
def splitArgument (words : List Token) : Option (List String × List Token) :=
  let before := words.takeWhile (· == .separator)
  match words.dropWhile (· == .separator) with
  | .argument text :: rest =>
    some (before.map Token.word ++ text :: (rest.takeWhile (· == .separator)).map Token.word,
      rest.dropWhile (· == .separator))
  | _ => none

/-- The word of a group, after the first separator in it is gone. -/
def wordOf (group : List String) : Option String := (group.erase "--").head?

def takeKind (kinds : List String) (taken : Taken) (group : List String) : Except Stop Taken :=
  let word := (wordOf group).getD ""
  if kinds.contains word then .ok { taken with kind := some word } else .error (.invalidKind word)

def takeText (taken : Taken) (group : List String) : Taken := { taken with text := some (wordOf group) }

/-- **As many positionals as stand together**, and what follows them. -/
def takePositionals (kinds : List String) (taken : Taken) (words : List Token) : Except Stop (Taken × List Token) :=
  match taken.kind, taken.text, splitArgument words with
  | none, _, some (group, rest) => do
    let taken ← takeKind kinds taken group
    match splitArgument rest with
    | some (group, rest) => return (takeText taken group, rest)
    | none => return (taken, rest)
  | some _, none, some (group, rest) => .ok (takeText taken group, rest)
  | _, _, _ => .ok (taken, words)

/-- What is glued to the short option for help is further short options. -/
def checkGlued : List Char → Except Stop Unit
  | [] => .ok ()
  | '-' :: rest => .error (.ignoredArgument .help (String.ofList ('-' :: rest)))
  | 'h' :: '=' :: value => .error (.ignoredArgument .help (String.ofList value))
  | 'h' :: rest => checkGlued rest
  | _ :: _ => .ok ()

def takeOption (taken : Taken) (flag : Flag) : Attached → Except Stop Taken
  | .assigned text => .error (.ignoredArgument flag text)
  | .glued text => do
    checkGlued text
    throw .help
  | .nothing =>
    match flag with
    | .help => .error .help
    | .json => .ok { taken with json := true }

/-- **All words in order**; each turn takes at least one, which the fuel counts. -/
def consume (kinds : List String) : Nat → Taken → List Token → Except Stop Taken
  | 0, taken, _ => .ok taken
  | fuel + 1, taken, words =>
    match words.takeWhile (!·.isOption), words.dropWhile (!·.isOption) with
    | _, [] => do
      let (taken, rest) ← takePositionals kinds taken words
      return { taken with extras := taken.extras ++ rest.map Token.word }
    | [], .option flag attached :: rest => do consume kinds fuel (← takeOption taken flag attached) rest
    | [], first :: rest => consume kinds fuel { taken with extras := taken.extras ++ [first.word] } rest
    | run, others => do
      let (after, rest) ← takePositionals kinds taken words
      if rest.length < words.length then consume kinds fuel after rest
      else consume kinds fuel { taken with extras := taken.extras ++ run.map Token.word } others

structure Request where
  kind : String
  text : String
  json : Bool
  deriving DecidableEq, Repr

/-- What is missing at the end, then what is left over, and then a text that was swallowed, is refused. -/
def finish (taken : Taken) : Except Stop Request :=
  match taken.kind, taken.text with
  | some kind, some text =>
    if !taken.extras.isEmpty then .error (.unrecognized taken.extras)
    else
      match text with
      | some text => .ok { kind := kind, text := text, json := taken.json }
      | none => .error .textSwallowed
  | kind, text =>
    .error (.missing ((if kind.isNone then ["kind"] else []) ++ (if text.isNone then ["hex"] else [])))

def parse (kinds : List String) (words : List String) : Except Stop Request := do
  let words ← tokens words
  finish (← consume kinds (words.length + 1) {} words)

end Arguments
end PasswordGate
