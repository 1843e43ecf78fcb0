import PasswordGate.Device
/-!
# Visit — what a device is asked for, written out

A visit is one of the calls of a device as data.  `Device.visit` makes the call, and `Device.visits` makes a row of
them, each under the authenticator of its turn; what a visit leaves behind, refused or not, is there for the next one.
-/
namespace PasswordGate

/-- **What a device is asked for**: an enrollment, a verification, a request off the wire, or to close. -/
inductive Visit
  | enroll (userId : Int) (password : Option Bytes)
  | verify (userId : Int) (handle password : Option Bytes)
  | message (operation : Operation) (data : Bytes)
  | close
  deriving DecidableEq, Repr

/-- What a visit gives: a buffer with the result, the wire form of a response, or nothing. -/
inductive Reply
  | buffer (b : BufferId)
  | message (data : Bytes)
  | nothing
  deriving DecidableEq, Repr

namespace Visit

def call (auth : Authenticator) : Visit → Call Reply
  | enroll userId password => do return .buffer (← Call.enroll auth userId password)
  | verify userId handle password => do return .buffer (← Call.verify auth userId handle password)
  | message operation data => do return .message (← Call.handle auth operation data)
  | close => do
    Call.close
    return .nothing

end Visit

namespace Device

/-- **One visit**: what it gives, and the device after it. -/
def visit (d : Device) (auth : Authenticator) (v : Visit) : Except DeviceError Reply × Device :=
  (v.call auth).perform d

/-- **A row of visits**: what each of them gives, and the device after the last. -/
def visits (d : Device) : List (Authenticator × Visit) → List (Except DeviceError Reply) × Device
  | [] => ([], d)
  | (auth, v) :: rest =>
    let (reply, after) := d.visit auth v
    let (replies, last) := after.visits rest
    (reply :: replies, last)

end Device
end PasswordGate
