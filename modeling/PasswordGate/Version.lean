/-!
# Version — of the gate and its tools
-/
namespace PasswordGate

def version : String := "1.0.0"

end PasswordGate
