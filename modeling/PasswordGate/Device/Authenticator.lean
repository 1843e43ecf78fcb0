import PasswordGate.Bytes.Sha256
import PasswordGate.Codec.Envelope
/-!
# Authenticator — who decides about a password

An authenticator is given a request and edits the response.  It is modelled by the edits that it makes, in order, as a
function of what the request says; an edit may fail, and then the later ones are not made.

Two authenticators for trying a device out follow.  `digesting` derives a handle from the user id and the password and
compares it on verification; `echoing` moves the password itself into the response.
-/
namespace PasswordGate

inductive Operation
  | enroll
  | verify
  deriving DecidableEq, Repr

namespace Operation

def label : Operation → String
  | enroll => "enroll"
  | verify => "verify"

def request : Operation → Kind
  | enroll => .enrollRequest
  | verify => .verifyRequest

def response : Operation → Kind
  | enroll => .enrollResponse
  | verify => .verifyResponse

end Operation

/-- The field of a request that holds the password. -/
def passwordField : String := "provided_password"

def handleField : String := "password_handle"

/-- **What an authenticator does to a response**: sets its user id, copies bytes into its field, moves a field of the
request into it, sets its status, or fails. -/
inductive Edit
  | userId (value : Int)
  | field (content : Bytes)
  | moved (requestField : String)
  | status (value : Status)
  | failure (text : String)
  deriving DecidableEq, Repr

/-- **An authenticator**: the edits it makes, by what the request says. -/
abbrev Authenticator := Operation → Envelope → List Edit

namespace Authenticator

def fieldOf (request : Envelope) (name : String) : Bytes := (request.field? name).getD []

/-- A handle: the digest of the user id and the password. -/
def derive (request : Envelope) : Bytes :=
  Sha256.digest (Word.bytes request.userId ++ fieldOf request passwordField)

def tokenFor (userId : Nat) : Bytes := Bytes.ofString "token:" ++ Word.bytes userId

/-- **Handles are digests of the user id and the password.** -/
def digesting : Authenticator
  | .enroll, request => [.userId request.userId, .field (derive request)]
  | .verify, request =>
    if fieldOf request handleField = derive request then [.userId request.userId, .field (tokenFor request.userId)]
    else [.status .invalid]

/-- **The password itself is moved into the response.** -/
def echoing : Authenticator := fun _ request => [.userId request.userId, .moved passwordField]

def scripted (edits : List Edit) : Authenticator := fun _ _ => edits

end Authenticator
end PasswordGate
