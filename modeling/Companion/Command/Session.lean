import Companion.Config
import Companion.Loader
import Companion.Output

/-!
# Sessions

A command says things while it works, and may end in an error. What it has said stays said.
-/

namespace Companion

inductive CommandError where
  | load (e : LoadError)
  | config (e : ConfigError)
  | output (e : OutputError)
  /-- So many files declare nothing. -/
  | noSubjects (files : Nat)
  | unknownSubject (name : String)
  deriving DecidableEq, Repr

namespace CommandError

def message : CommandError → String
  | .load e => e.message
  | .config e => e.message
  | .output e => e.message
  | .noSubjects files => "no subjects declared in " ++ toString files ++ " input file(s)"
  | .unknownSubject name => "subject '" ++ name ++ "' not found"

def cause? : CommandError → Option IoFailure
  | .load e => e.cause?
  | .config e => e.cause?
  | .output e => e.cause?
  | .noSubjects _ | .unknownSubject _ => none

/-- The error is one behind which nobody may go on. -/
def isFatal : CommandError → Bool
  | .load .overflow | .config .overflow => true
  | _ => false

/-- What is said about an error in the end: its message, and what is behind it. -/
def report (e : CommandError) : String :=
  (if e.isFatal then "" else "Error: ") ++ e.message ++ "\n"
    ++ match e.cause? with
      | none => ""
      | some cause => "\nCaused by:\n    " ++ cause.message ++ "\n"

def status (e : CommandError) : Nat :=
  if e.isFatal then 101 else 1

end CommandError

/-- What a command has said: its output, and its complaints. -/
structure Transcript where
  out : String := ""
  err : String := ""
  deriving DecidableEq, Repr

abbrev Session (m : Type → Type) := ExceptT CommandError (StateT Transcript m)

namespace Session

variable {m : Type → Type} [Monad m]

def put (text : String) : Session m Unit :=
  modify fun t => { t with out := t.out ++ text }

def say (lines : List String) : Session m Unit :=
  put (String.join (lines.map (· ++ "\n")))

/-- Puts lines among the complaints. -/
def complain (lines : List String) : Session m Unit :=
  modify fun t => { t with err := t.err ++ String.join (lines.map (· ++ "\n")) }

/-- Goes on with an answer, or gives up. -/
def orFail {ε α : Type} (wrap : ε → CommandError) : Except ε α → Session m α
  | .ok a => pure a
  | .error e => throw (wrap e)

variable [Files m]

/-- The configuration that a request names, and the options of a run with it. -/
def configure (path : Option String) (implicitConversion : Bool) :
    Session m (Option Config × Options) := do
  let config ← match path with
    | none => pure none
    | some path => do
      let loaded ← (Config.load path : m _)
      some <$> orFail .config loaded
  let options ← orFail (.config ∘ .options) (Options.resolve config implicitConversion)
  return (config, options)

def loadingLines (includeDirs : List String) : List String :=
  "[~] Loading declaration manifests and resolving imports..."
    :: (if includeDirs.isEmpty then []
        else "    Include directories:" :: includeDirs.map ("      - " ++ ·))
    ++ [""]

def loadedLines (l : Loader) : List String :=
  ("[~] Loaded " ++ toString l.met.length ++ " file(s) total (including imports)")
    :: "[~] Assemblies loaded:" :: l.assemblies.map ("    - " ++ ·)
    ++ "[~] Subjects:" :: l.subjects.map (fun s => "    - " ++ s.reference)
    ++ [""]

/-- Loads files with all that they import, and says so if asked to. -/
def load (files includeDirs : List String) (verbose : Bool) : Session m Loader := do
  if verbose then say (loadingLines includeDirs)
  let (outcome, l) ← ((files.forM Loader.loadFile : Loading m Unit).run.run { includeDirs } : m _)
  orFail .load outcome
  if verbose then say (loadedLines l)
  return l

end Session

end Companion
