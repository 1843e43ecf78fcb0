/-!
# Kind — which fields a message carries, in wire order

A kind is its title and its field names, no name twice.  Extending a kind puts further fields behind its own and keeps
its constructor, that is, how many fields can be filled on construction.
-/
namespace PasswordGate

/-- **A message kind**: its title, its fields in wire order, how many of them its constructor fills, and those that
have a setter of their own. -/
structure Kind where
  title : String
  fields : List String
  filled : Nat := fields.length
  setters : List String := []
  distinct : fields.Nodup := by decide
  deriving DecidableEq

namespace Kind

/-- The bare envelope: no fields. -/
def base : Kind := { title := "KeyguardMessage", fields := [] }

def enrollRequest : Kind := { title := "EnrollRequest", fields := ["provided_password"] }

def enrollResponse : Kind :=
  { title := "EnrollResponse", fields := ["enrolled_password_handle"], setters := ["enrolled_password_handle"] }

def verifyRequest : Kind := { title := "VerifyRequest", fields := ["password_handle", "provided_password"] }

/-- The token issued for a password that matched. -/
def verifyResponse : Kind :=
  { title := "VerifyResponse", fields := ["verification_token"], setters := ["verification_token"] }

/-- **A kind with further fields**: they follow its own on the wire. -/
def extend (parent : Kind) (title : String) (own : List String) (distinct : (parent.fields ++ own).Nodup) : Kind :=
  { title := title, fields := parent.fields ++ own, filled := parent.filled, setters := parent.setters,
    distinct := distinct }

/-- The kinds that have a name of their own on the command line, in the order they are listed. -/
def table : List (String × Kind) :=
  [("enroll-request", enrollRequest), ("enroll-response", enrollResponse),
    ("verify-request", verifyRequest), ("verify-response", verifyResponse)]

def position? (kind : Kind) (field : String) : Option Nat := kind.fields.findIdx? (· == field)

end Kind
end PasswordGate
