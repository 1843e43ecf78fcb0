import PasswordGate.Text.Integer
import PasswordGate.Value.Hash
/-!
# Coercion — which values pass for a switch, and which for a length

A switch is a boolean, a one or a zero, or one of a fixed list of words.  An integer is an integer, a finite double (cut
toward zero) or text that spells one; a boolean is none.

What is neither is complained about.  But a switch is looked up by its hash, and a view that refuses its hash is no matter
for a complaint: the refusal itself is what the coercion fails with.
-/
namespace PasswordGate

/-- What is wrong with one setting. -/
inductive Complaint
  | notAnObject
  | unknownSetting
  | missingValue
  | notASwitch
  | notAnInteger
  | tooLarge
  | outOfRange
  | passwordOverField
  deriving DecidableEq, Repr

namespace Complaint

def message : Complaint → String
  | notAnObject => "Invalid input type."
  | unknownSetting => "Unknown field."
  | missingValue => "Field may not be null."
  | notASwitch => "Not a valid boolean."
  | notAnInteger => "Not a valid integer."
  | tooLarge => "Number too large."
  | outOfRange => "Must be greater than or equal to 1 and less than or equal to 4294967295."
  | passwordOverField => "max_password_length must be less than or equal to max_field_length"

end Complaint

namespace Coercion

/-- Why a coercion gives nothing: there is a complaint about the value, or the value refused its hash. -/
inductive Failure
  | complaint (c : Complaint)
  | hash (cause : HashRefusal)
  deriving DecidableEq, Repr

def onWords : List String :=
  ["t", "T", "true", "True", "TRUE", "on", "On", "ON", "y", "Y", "yes", "Yes", "YES", "1"]

def offWords : List String :=
  ["f", "F", "false", "False", "FALSE", "off", "Off", "OFF", "n", "N", "no", "No", "NO", "0"]

/-- Whether a value is a word of a list, or the number it stands for. -/
def isOneOf (words : List String) (number : Int) : Value → Bool
  | .text s => words.contains s
  | .float x => x.isInt number
  | value => value.integer? == some number

/-- **The switch that a value passes for.**  What has no hash by its kind is no switch; a view's refusal goes through. -/
def switch (value : Value) : Except Failure Bool :=
  match value.hashFault? with
  | some (.refused cause) => .error (.hash cause)
  | some .unhashable => .error (.complaint .notASwitch)
  | none =>
    if isOneOf onWords 1 value then .ok true
    else if isOneOf offWords 0 value then .ok false
    else .error (.complaint .notASwitch)

def spelled (found : Option Int) : Except Complaint Int :=
  match found with
  | some n => .ok n
  | none => .error .notAnInteger

def integer : Value → Except Complaint Int
  | .int n => .ok n
  | .status s => .ok s.number
  | .float .nan => .error .notAnInteger
  | .float (.infinite _) => .error .tooLarge
  | .float x => spelled x.truncate?
  | .text s => spelled (Integer.read? s)
  | .octets data | .storage data | .view _ data | .wordView _ data => spelled (Integer.readBytes? data)
  | _ => .error .notAnInteger

end Coercion
end PasswordGate
