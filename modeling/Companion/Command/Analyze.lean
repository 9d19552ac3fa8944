import Companion.Command.Arguments
import Companion.Command.Session
import Companion.Report
import Companion.Yaml.Printer

/-!
# The analysing command

Shows the models of all subjects, with the diagnostics that stand for static ones, and on request the
companion that the generating command would write for one of them. It writes no files.
-/

namespace Companion

namespace AnalyzeRequest

def summaryLine (m : SubjectModel) : String :=
  (if m.isSupported then "[✓] " else "[✗] ") ++ m.subject.reference ++ ": "
    ++ toString m.properties.length ++ " propert(ies), " ++ toString m.methods.length ++ " method(s)"

def diagnostics (models : List SubjectModel) : List Diagnostic :=
  (models.filter (!·.isSupported)).map fun m => .unsupportedStaticType m.subject

def analysis (models : List SubjectModel) : Value :=
  .ofFields [("models", .list (models.map SubjectModel.encode)),
    ("diagnostics", .list ((diagnostics models).map Diagnostic.encode))]

def analysisLines (format : ModelFormat) (models : List SubjectModel) : List String :=
  match format with
  | .json =>
    ["[~] Member Models (JSON)", "========================", Json.pretty (analysis models), ""]
  | .yaml =>
    ["[~] Member Models (YAML)", "========================", Yaml.print (analysis models), ""]

def preview : Outcome → String
  | .source s => "[~] " ++ s.hintName ++ "\n==============================\n" ++ s.text
  | .diagnostic d => "[✗] " ++ d.display ++ "\n"
  | .skipped subject kind =>
    "[~] " ++ subject ++ " is a " ++ kind.display ++ "; only classes and records get a proxy\n"

/-- The model that a name means: the first of that simple name or that reference. -/
def find? (models : List SubjectModel) (name : String) : Option SubjectModel :=
  models.find? fun m => m.subject.name == name || m.subject.reference == name

def run {m : Type → Type} [Monad m] [Files m] (r : AnalyzeRequest) : Session m Unit := do
  Session.say
    ["Proxy Generator - Member Model Analysis", "=======================================", ""]
  let l ← Session.load r.files r.includeDirs true
  let models := l.subjects.map SubjectDecl.model
  Session.say (models.map summaryLine ++ [""])
  Session.say (analysisLines r.format models)
  match r.printProxy with
  | none => return
  | some name =>
    -- The configuration matters only to the companion, and nobody looks at it otherwise.
    let (_, options) ← Session.configure r.config false
    match find? models name with
    | none => throw (.unknownSubject name)
    | some model => Session.put (preview (model.generate options))

end AnalyzeRequest

end Companion
