/-!
# Level — how much a record matters
-/
namespace PasswordGate

/-- A level is a number; the five usual ones and zero have names. -/
abbrev Level := Int

namespace Level

def debug : Level := 10
def info : Level := 20
def warning : Level := 30
def error : Level := 40
def critical : Level := 50

def named : List (Level × String) :=
  [(0, "NOTSET"), (debug, "DEBUG"), (info, "INFO"), (warning, "WARNING"), (error, "ERROR"), (critical, "CRITICAL")]

/-- **The name of a level**; one without a name of its own goes by its number. -/
def name (level : Level) : String := (named.lookup level).getD s!"Level {level}"

end Level
end PasswordGate
