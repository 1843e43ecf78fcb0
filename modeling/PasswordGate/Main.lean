import PasswordGate.Inspect.Command
/-!
# Main — the inspection tool as a program

The words of the command line go to `Command.run`; what comes back is printed, and its exit code is the program's.  A
run that breaks off prints why to the error stream and exits with 1.
-/

/-- **The program.** -/
def main (words : List String) : IO UInt32 := do
  match PasswordGate.Command.run words with
  | .ok outcome =>
    IO.print outcome.stdout
    IO.eprint outcome.stderr
    return UInt32.ofNat outcome.exit
  | .error fault =>
    IO.eprintln fault.message
    return 1
