import PasswordGate.Log.Record
/-!
# Note — a record without arguments or extras, as the package itself logs it
-/
namespace PasswordGate

/-- A note in the log: its level, the logger's name, and the message. -/
structure Note where
  level : Level
  logger : String
  message : String
  deriving DecidableEq, Repr

namespace Note

def shownLogger (n : Note) : String := Record.relativeName n.logger

end Note
end PasswordGate
