import PasswordGate.Codec.Word
/-!
# Settings — what a device is configured with

Two switches and two limits.  A limit is at least one and fits 32 bits, and no password may be longer than a field.
-/
namespace PasswordGate

structure Settings where
  debugLogging : Bool := false
  maxFieldLength : Nat := Word.largest
  maxPasswordLength : Nat := 4096
  metricsEnabled : Bool := false
  deriving DecidableEq, Repr

inductive SettingsError
  | lengthOutOfRange (name : String)
  | passwordOverField
  deriving DecidableEq, Repr

namespace SettingsError

def message : SettingsError → String
  | lengthOutOfRange name => s!"{name} must be between 1 and {Word.largest}"
  | passwordOverField => "max_password_length must be less than or equal to max_field_length"

end SettingsError

namespace Settings

/-- A limit is refused below one and outside 32 bits. -/
def requireLength (name : String) (value : Int) : Except SettingsError Nat :=
  if 1 ≤ value ∧ value ≤ Word.largest then .ok value.toNat else .error (.lengthOutOfRange name)

/-- **Settings from values**: each limit is checked, then the one against the other. -/
def make (debugLogging : Bool) (maxFieldLength maxPasswordLength : Int) (metricsEnabled : Bool) :
    Except SettingsError Settings := do
  let field ← requireLength "max_field_length" maxFieldLength
  let password ← requireLength "max_password_length" maxPasswordLength
  if field < password then throw .passwordOverField
  return { debugLogging := debugLogging, maxFieldLength := field, maxPasswordLength := password
           metricsEnabled := metricsEnabled }

def switchText (b : Bool) : String := if b then "True" else "False"

def summary (s : Settings) : String :=
  s!"RuntimeConfig(debug_logging={switchText s.debugLogging}, max_field_length={s.maxFieldLength}, " ++
    s!"max_password_length={s.maxPasswordLength}, metrics_enabled={switchText s.metricsEnabled})"

end Settings
end PasswordGate
