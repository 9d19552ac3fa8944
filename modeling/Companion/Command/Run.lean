import Companion.Command.Analyze
import Companion.Command.Generate

/-!
# Running a command line

The words of a command line, from refusal to exit status.
-/

namespace Companion

structure CommandResult where
  status : Nat
  out : String := ""
  err : String := ""
  deriving DecidableEq, Repr

/-- The status of a command line that asks for nothing there is. -/
def refusedStatus : Nat := 2

variable {m : Type → Type} [Monad m] [Files m]

/-- Runs a command and tells whether it succeeded. -/
def Command.run : Command → Session m Bool
  | .generate request => request.run
  | .analyze request => do
    request.run
    return true

def CommandResult.ofSession (outcome : Except CommandError Bool) (t : Transcript) : CommandResult :=
  match outcome with
  | .ok succeeded => { status := if succeeded then 0 else 1, out := t.out, err := t.err }
  | .error e => { status := e.status, out := t.out, err := t.err ++ e.report }

def runCommandLine (words : List String) : m CommandResult := do
  match Command.ofWords? words with
  | none => return { status := refusedStatus }
  | some command =>
    let (outcome, t) ← (Command.run command : Session m Bool).run.run {}
    return .ofSession outcome t

end Companion
