import DramScheduler.CommandLine.Session

/-!
# The program

The command line: reads the document that the arguments name, if they name one, and prints the
answer to them.
-/

namespace DramScheduler.CommandLine

/-- An error number of the operating system; some calls report it with its sign changed. -/
def errorNumber (code : UInt32) : Nat :=
  min code.toNat (1 <<< 32 - code.toNat)

/-- What the operating system says about a failure to read. -/
def reasonOf : IO.Error → String
  | .noFileOrDirectory _ code text | .permissionDenied _ code text
  | .inappropriateType _ code text | .invalidArgument _ code text
  | .resourceExhausted _ code text =>
    let number := errorNumber code
    text.capitalize ++ s!" (os error {number})"
  | e => toString e

/-- The text of a document, or what the operating system says about a failure to read it. -/
def readDocument (path : String) : IO Document := do
  match ← (IO.FS.readBinFile path).toBaseIO with
  | .error e => return .error (reasonOf e)
  | .ok bytes =>
    match String.fromUTF8? bytes with
    | some text => return .ok text
    | none => return .error "stream did not contain valid UTF-8"

/-- Prints an answer and hands on its exit code. -/
def Outcome.print (o : Outcome) : IO UInt32 := do
  (← IO.getStdout).putStr o.output
  for line in o.errors do
    (← IO.getStderr).putStrLn line
  return .ofNat o.exitCode

end DramScheduler.CommandLine

open DramScheduler.CommandLine in
/-- The program: reads what the arguments ask for, answers, and ends with the exit code of the
answer. -/
def main (arguments : List String) : IO UInt32 := do
  match Invocation.parse? arguments with
  | none => Outcome.misuse.print
  | some invocation =>
    let document ← match invocation.document? with
      | some path => readDocument path
      | none => pure (.ok "")
    (invocation.outcome document).print
