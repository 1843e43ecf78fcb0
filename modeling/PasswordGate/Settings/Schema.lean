import PasswordGate.Settings
import PasswordGate.Settings.Coercion
/-!
# Schema — settings out of a document's table

Every setting may be left out and then has its default.  Everything that is wrong with single settings is reported
together, under the setting's name; the two limits are compared only when nothing is.  A value that refuses its hash is not
reported: the first such refusal, in the order of the settings, ends the reading, whatever else is wrong.
-/
namespace PasswordGate
namespace Schema

abbrev Complaints := List (String × List Complaint)

inductive Failure
  | invalid (complaints : Complaints)
  | hash (cause : HashRefusal)
  | settings (cause : SettingsError)
  deriving DecidableEq, Repr

def names : List String := ["debug_logging", "max_field_length", "max_password_length", "metrics_enabled"]

/-- **A length**: an integer from one up to what fits 32 bits. -/
def length (value : Value) : Except Coercion.Failure Int :=
  match Coercion.integer value with
  | .error c => .error (.complaint c)
  | .ok n => if 1 ≤ n ∧ n ≤ Word.largest then .ok n else .error (.complaint .outOfRange)

/-- **One setting of a table**: its default, its value, or what is wrong with it. -/
def setting {α : Type} (entries : List (String × Value)) (name : String) (default : α)
    (coerce : Value → Except Coercion.Failure α) : Except Coercion.Failure α :=
  match entries.lookup name with
  | none => .ok default
  | some .null => .error (.complaint .missingValue)
  | some value => coerce value

/-- What is wrong with one setting, under its name. -/
def complaint {α : Type} (name : String) : Except Coercion.Failure α → Complaints
  | .error (.complaint c) => [(name, [c])]
  | _ => []

/-- The refusal that one setting met with. -/
def refusal? {α : Type} : Except Coercion.Failure α → Option HashRefusal
  | .error (.hash cause) => some cause
  | _ => none

def unknown (entries : List (String × Value)) : Complaints :=
  (entries.filter fun entry => !names.contains entry.1).map fun entry => (entry.1, [.unknownSetting])

def ofEntries (entries : List (String × Value)) : Except Failure Settings :=
  let defaults : Settings := {}
  let debug := setting entries "debug_logging" defaults.debugLogging Coercion.switch
  let field := setting entries "max_field_length" (defaults.maxFieldLength : Int) length
  let password := setting entries "max_password_length" (defaults.maxPasswordLength : Int) length
  let metrics := setting entries "metrics_enabled" defaults.metricsEnabled Coercion.switch
  match (refusal? debug).or ((refusal? field).or ((refusal? password).or (refusal? metrics))) with
  | some cause => .error (.hash cause)
  | none =>
    match debug, field, password, metrics, unknown entries with
    | .ok debug, .ok field, .ok password, .ok metrics, [] =>
      if field < password then .error (.invalid [("max_password_length", [.passwordOverField])])
      else
        match Settings.make debug field password metrics with
        | .ok s => .ok s
        | .error e => .error (.settings e)
    | _, _, _, _, others =>
      .error (.invalid (complaint "debug_logging" debug ++ complaint "max_field_length" field ++
        complaint "max_password_length" password ++ complaint "metrics_enabled" metrics ++ others))

/-- **The settings that a value gives**; only a table gives any. -/
def load : Value → Except Failure Settings
  | .dict entries => ofEntries entries
  | _ => .error (.invalid [("_schema", [.notAnObject])])

end Schema
end PasswordGate
