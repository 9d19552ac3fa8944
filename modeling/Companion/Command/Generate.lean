import Companion.Command.Arguments
import Companion.Command.Session
import Companion.Report

/-!
# The generating command

Writes a companion for every class and record that the manifests declare. Static subjects are
complained about and make the command fail, after all the others have been written. Anything else that
goes wrong ends the command before it writes.
-/

namespace Companion

def defaultOutputDir : String := "generated"

namespace GenerateRequest

/-- The folder that sources go to: what the request says, then the configuration, then the default. -/
def folder (r : GenerateRequest) (config : Option Config) : String :=
  (r.outputDir.or (config.bind (·.outputDir))).getD defaultOutputDir

def settingsLines (r : GenerateRequest) (folder : String) (o : Options) : List String :=
  ["Proxy Generator - Code Generation Tool",
    "======================================",
    "",
    "[~] Configuration:",
    "  Output directory: " ++ folder,
    "  Proxy suffix: " ++ o.proxySuffix,
    "  Implicit conversion: " ++ toString o.implicitConversion,
    "  Input files: " ++ toString r.files.length]
  ++ r.files.map ("    - " ++ ·) ++ [""]

def closingLine (folder : String) (written : Nat) (report : Report) : String :=
  if report.hasErrors then
    "[✗] Generated " ++ toString written ++ " proxy file(s) with "
      ++ toString (report.diagnostics.countP Diagnostic.isError) ++ " error(s)"
  else "[✓] Generated " ++ toString written ++ " proxy file(s) in " ++ folder

/-- Runs the command and tells whether it succeeded. -/
def run {m : Type → Type} [Monad m] [Files m] (r : GenerateRequest) : Session m Bool := do
  let (config, options) ← Session.configure r.config r.implicitConversion
  let folder := r.folder config
  if r.verbose then Session.say (r.settingsLines folder options)
  let l ← Session.load r.files r.includeDirs r.verbose
  if l.subjects.isEmpty then throw (.noSubjects r.files.length)
  let (report, _) := generateSubjects options l.subjects {} {}
  Session.complain (report.diagnostics.map Diagnostic.display)
  Session.say (report.skipped.map fun s =>
    "[~] Skipped " ++ s ++ " (only classes and records get a proxy)")
  -- Up to here nothing was written, and only the writing itself can still fail.
  let written ← Session.orFail .output (← ((writeSources folder report.sources).run : m _))
  if r.verbose then Session.say (written.map ("[✓] Generated " ++ ·))
  Session.say [closingLine folder written.length report]
  return !report.hasErrors

end GenerateRequest

end Companion
