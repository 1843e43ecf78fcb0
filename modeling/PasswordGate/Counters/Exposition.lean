import PasswordGate.Counters
import PasswordGate.Value.Literal
/-!
# Exposition — counters as text for a collector

Each family has a line with its meaning, a line with its type, and a line for each sample.  Labels stand in alphabetical
order; in a label's value the backslash, the line feed and the quote are escaped.
-/
namespace PasswordGate
namespace Exposition

def contentType : String := "text/plain; version=1.0.0; charset=utf-8"

structure Sample where
  labels : List (String × String)
  value : Nat
  deriving DecidableEq, Repr

structure Family where
  name : String
  help : String
  samples : List Sample
  deriving DecidableEq, Repr

def valueText (n : Nat) : String := Value.floatStyle.text (Double.ofInt n)

/-- **A count on a sample's line**: from a million on with an exponent. -/
def number (n : Nat) : String :=
  let text := valueText n
  let whole := text.toList.takeWhile (· != '.')
  if 6 < whole.length ∧ text.toList.contains '.' then
    let digits := whole.take 1 ++ '.' :: whole.drop 1
    let kept := (digits.reverse.dropWhile fun c => c == '0' || c == '.').reverse
    String.ofList kept ++ s!"e+0{whole.length - 1}"
  else text

def inside (c : Char) : List Char :=
  if c = '\\' then ['\\', '\\'] else if c = '\n' then ['\\', 'n'] else if c = '"' then ['\\', '"'] else [c]

def label (l : String × String) : String := l.1 ++ "=\"" ++ String.ofList (l.2.toList.flatMap inside) ++ "\""

def sampleLine (name : String) (s : Sample) : String :=
  name ++ "\x7b" ++ ",".intercalate (s.labels.map label) ++ "\x7d " ++ number s.value

def familyLines (f : Family) : List String :=
  ("# HELP " ++ f.name ++ " " ++ f.help) :: ("# TYPE " ++ f.name ++ " counter") :: f.samples.map (sampleLine f.name)

def families (c : Counters) : List Family :=
  [{ name := "keyguard_requests_total", help := "Enroll/verify requests handled by the keyguard device"
     samples := c.requests.map fun (operation, n) => { labels := [("operation", operation)], value := n } },
    { name := "keyguard_rejections_total", help := "Enroll/verify requests rejected by the keyguard device"
      samples := c.rejections.map fun ((operation, reason), n) =>
        { labels := [("operation", operation), ("reason", reason)], value := n } }]

/-- **The lines of the text**, each ended by a line feed in it. -/
def lines (c : Counters) : List String := (families c).flatMap familyLines

def render (c : Counters) : String := String.join ((lines c).map (· ++ "\n"))

/-- Whether two sets of labels are the same, whatever their order. -/
def sameLabels (a b : List (String × String)) : Bool :=
  a.length == b.length && a.all fun l => b.lookup l.1 == some l.2

/-- **The value of a sample**, by its name and all its labels; zero if there is none. -/
def value (c : Counters) (name : String) (labels : List (String × String)) : Nat :=
  match (families c).find? (·.name == name) with
  | none => 0
  | some family =>
    match family.samples.find? fun s => sameLabels s.labels labels with
    | none => 0
    | some s => s.value

end Exposition
end PasswordGate
