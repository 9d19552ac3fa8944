import Companion.Proofs.Command.Generating

/-!
# Analysing on a tree of files

The analysing command generates nothing itself: it picks the diagnostics out of the models, and the
companion that it shows comes from the model alone, without a cache. Both are what a run of the
generating command over the same files and the same configuration has in its report:

> **analysing shows what generating would produce** (`analyze_shows_generated`).

What is shown is text, and the text is spelled here line by line: the analysis in
`AnalyzeRequest.reportLines`, with the diagnostics that are put into it, and the companion that a name
asks for in `Outcome.Previewed`, by the outcome that generating its subject comes to.
-/

namespace Companion

/-! ## What is printed -/

/-- How severe a diagnostic is, in words. -/
def Severity.spelled : Severity → String
  | .hidden => "hidden"
  | .info => "info"
  | .warning => "warning"
  | .error => "error"

/-- A kind of declaration as notices name it. -/
def DeclarationKind.spelled : DeclarationKind → String
  | .classType => "Class"
  | .recordType => "Record"
  | .structType => "Struct"
  | .recordStruct => "RecordStruct"
  | .interfaceType => "Interface"

/-- The diagnostic on one line, behind the place that it is about, if that is known. -/
inductive Diagnostic.Spelled (d : Diagnostic) : String → Prop where
  | unplaced (h : d.location = none) :
    Spelled d (d.severity.spelled ++ " " ++ d.id ++ ": " ++ d.message)
  | placed {l : SourceLocation} (h : d.location = some l) :
    Spelled d (l.path ++ "(" ++ toString l.line.toNat ++ "," ++ toString l.column.toNat ++ "): "
      ++ d.severity.spelled ++ " " ++ d.id ++ ": " ++ d.message)

/-- The text that shows an outcome: the source under its name, or why there is none. -/
inductive Outcome.Previewed : Outcome → String → Prop where
  | source (s : GeneratedSource) : Previewed (.source s)
    ("[~] " ++ s.hintName ++ "\n==============================\n" ++ s.text)
  | diagnostic {d : Diagnostic} {text : String} (h : d.Spelled text) :
    Previewed (.diagnostic d) ("[✗] " ++ text ++ "\n")
  | skipped (subject : String) (kind : DeclarationKind) : Previewed (.skipped subject kind)
    ("[~] " ++ subject ++ " is a " ++ kind.spelled ++ "; only classes and records get a proxy\n")

/-- The diagnostic as an analysis lists it. -/
def Diagnostic.listed (d : Diagnostic) : Value :=
  .ofFields [("id", .text d.id), ("title", .text d.title), ("message", .text d.message),
    ("severity", .text d.severity.spelled), ("category", .text d.category),
    ("location", match d.location with
      | none => .null
      | some l => .ofFields [("path", .text l.path), ("line", .integer l.line.toNat),
        ("column", .integer l.column.toNat)])]

/-- The lines of an analysis: what was loaded, a line for each subject, and the models of all of them
    with the diagnostics, in the format that is asked for. -/
def AnalyzeRequest.reportLines (r : AnalyzeRequest) (l : Loader) (diagnostics : List Diagnostic) :
    List String :=
  ["Proxy Generator - Member Model Analysis",
    "=======================================",
    "",
    "[~] Loading declaration manifests and resolving imports..."]
  ++ (if r.includeDirs = [] then []
      else "    Include directories:" :: r.includeDirs.map fun dir => "      - " ++ dir)
  ++ ["",
    "[~] Loaded " ++ toString l.met.length ++ " file(s) total (including imports)",
    "[~] Assemblies loaded:"]
  ++ l.assemblies.map (fun assembly => "    - " ++ assembly)
  ++ ["[~] Subjects:"]
  ++ l.subjects.map (fun s => "    - " ++ s.reference)
  ++ [""]
  ++ l.subjects.map (fun s => (if s.isStatic then "[✗] " else "[✓] ") ++ s.reference ++ ": "
    ++ toString s.model.properties.length ++ " propert(ies), "
    ++ toString s.model.methods.length ++ " method(s)")
  ++ [""]
  ++ (let analysis : Value := .ofFields
        [("models", .list (l.subjects.map (·.model.encode))),
          ("diagnostics", .list (diagnostics.map Diagnostic.listed))]
      match r.format with
      | .json => ["[~] Member Models (JSON)", "========================", Json.pretty analysis]
      | .yaml => ["[~] Member Models (YAML)", "========================", Yaml.print analysis])
  ++ [""]

theorem Diagnostic.spelled_display (d : Diagnostic) : d.Spelled d.display := by
  have hword : Vocabulary.word d.severity = d.severity.spelled := by
    cases d.severity <;> rfl
  unfold display
  rw [hword]
  cases hlocation : d.location with
  | none =>
    simpa using Diagnostic.Spelled.unplaced hlocation
  | some l =>
    simpa [SourceLocation.display, String.append_assoc] using Diagnostic.Spelled.placed hlocation

theorem Outcome.previewed_preview (outcome : Outcome) :
    outcome.Previewed (AnalyzeRequest.preview outcome) := by
  cases outcome with
  | source s => exact .source s
  | diagnostic d => exact .diagnostic d.spelled_display
  | skipped subject kind =>
    have hkind : kind.display = kind.spelled := by cases kind <;> rfl
    rw [AnalyzeRequest.preview, hkind]
    exact .skipped subject kind

theorem Diagnostic.encode_eq_listed (d : Diagnostic) : d.encode = d.listed := by
  have hword : Vocabulary.word d.severity = d.severity.spelled := by
    cases d.severity <;> rfl
  have hlocation : SourceLocation.encode? d.location = (match d.location with
      | none => .null
      | some l => .ofFields [("path", .text l.path), ("line", .integer l.line.toNat),
        ("column", .integer l.column.toNat)]) := by
    cases d.location <;> rfl
  rw [encode, Vocabulary.write, hword, hlocation, listed]

/-! ## One subject among others -/

/-- What there is a diagnostic for can be told from the model. -/
theorem SubjectModel.diagnostic?_generate (m : SubjectModel) (o : Options) :
    (m.generate o).diagnostic?
      = if m.isSupported then none else some (.unsupportedStaticType m.subject) := by
  rw [generate]
  cases m.isSupported with
  | false => rfl
  | true => cases m.isEmitted <;> rfl

namespace AnalyzeRequest

theorem diagnostics_eq_ofOutcomes (o : Options) (models : List SubjectModel) :
    diagnostics models = (Report.ofOutcomes (models.map (·.generate o))).diagnostics := by
  show _ = (models.map (·.generate o)).filterMap Outcome.diagnostic?
  rw [diagnostics]
  induction models with
  | nil => rfl
  | cons m rest ih =>
    rw [List.map_cons, List.filterMap_cons, m.diagnostic?_generate o, ← ih]
    cases hm : m.isSupported with
    | true => rw [List.filter_cons_of_neg (by simp [hm]), if_pos rfl]
    | false =>
      rw [List.filter_cons_of_pos (by simp [hm]), List.map_cons, if_neg Bool.false_ne_true]

/-- The diagnostics of an analysis are those of the report on its subjects. -/
theorem diagnostics_eq_generateSubjects {o : Options} {subjects : List SubjectDecl}
    (h : Sha256.CollisionFree ((Run.mk o subjects).requests.map Request.message)) :
    diagnostics (subjects.map SubjectDecl.model)
      = (generateSubjects o subjects {} {}).1.diagnostics := by
  rw [generateSubjects_eq_ofOutcomes h, diagnostics_eq_ofOutcomes o, List.map_map]
  rfl

/-- A name that no subject has, and that refers to none, means none. -/
theorem find?_models_eq_none {subjects : List SubjectDecl} {name : String}
    (h : ∀ s ∈ subjects, s.name ≠ name ∧ s.reference ≠ name) :
    find? (subjects.map SubjectDecl.model) name = none := by
  rw [find?, List.find?_eq_none]
  simpa [SubjectDecl.subject_model, SubjectDecl.describe] using h

/-- A name means the first subject with that name or that reference. -/
theorem find?_models_eq_some {before after : List SubjectDecl} {s : SubjectDecl} {name : String}
    (hbefore : ∀ s' ∈ before, s'.name ≠ name ∧ s'.reference ≠ name)
    (hs : s.name = name ∨ s.reference = name) :
    find? ((before ++ s :: after).map SubjectDecl.model) name = some s.model := by
  have hnone : (before.map SubjectDecl.model).find?
      (fun m => m.subject.name == name || m.subject.reference == name) = none :=
    find?_models_eq_none hbefore
  rw [find?, List.map_append, List.find?_append, hnone, Option.none_or, List.map_cons,
    List.find?_cons_of_pos]
  simpa [SubjectDecl.subject_model, SubjectDecl.describe] using hs

end AnalyzeRequest

/-- A subject has its entry in a report between those of the subjects before it and behind it. -/
theorem generateSubjects_between {o : Options} {before after : List SubjectDecl} {s : SubjectDecl}
    (h : Sha256.CollisionFree
      ((Run.mk o (before ++ s :: after)).requests.map Request.message)) :
    (generateSubjects o (before ++ s :: after) {} {}).1
      = ((generateSubjects o before {} {}).1.append (({} : Report).add (s.model.generate o))).append
          (generateSubjects o after {} {}).1 := by
  have hpart : ∀ part, part.Sublist (before ++ s :: after) →
      (generateSubjects o part {} {}).1 = .ofOutcomes (part.map (·.model.generate o)) := by
    intro part hsub
    exact generateSubjects_eq_ofOutcomes (h.mono fun r hr => (hsub.map _).subset hr)
  have hone : Report.ofOutcomes [s.model.generate o] = ({} : Report).add (s.model.generate o) := by
    cases s.model.generate o <;> rfl
  rw [hpart _ (.refl _), hpart before (List.sublist_append_left _ _),
    hpart after ((List.sublist_cons_self s after).trans (List.sublist_append_right _ _)), ← hone,
    ← Report.ofOutcomes_append, ← Report.ofOutcomes_append, List.map_append, List.map_cons,
    List.append_assoc, List.singleton_append]

/-! ## The command -/

namespace AnalyzeRequest

/-- What is said before a companion is shown. -/
def shown (r : AnalyzeRequest) (l : Loader) : Transcript :=
  .lines (r.reportLines l (diagnostics (l.subjects.map SubjectDecl.model)))

/-- Every line comes from one of the sessions that the command goes through. -/
theorem reportLines_eq (r : AnalyzeRequest) (l : Loader) :
    r.reportLines l (diagnostics (l.subjects.map SubjectDecl.model))
      = ["Proxy Generator - Member Model Analysis", "=======================================", ""]
        ++ (Session.loadingLines r.includeDirs ++ Session.loadedLines l)
        ++ ((l.subjects.map SubjectDecl.model).map summaryLine ++ [""])
        ++ analysisLines r.format (l.subjects.map SubjectDecl.model) := by
  have hsummary : (l.subjects.map SubjectDecl.model).map summaryLine
      = l.subjects.map fun s => (if s.isStatic then "[✗] " else "[✓] ") ++ s.reference ++ ": "
        ++ toString s.model.properties.length ++ " propert(ies), "
        ++ toString s.model.methods.length ++ " method(s)" := by
    rw [List.map_map]
    refine List.map_congr_left fun s _ => ?_
    simp only [Function.comp_apply, summaryLine, SubjectModel.isSupported,
      SubjectDecl.subject_model, SubjectDecl.describe]
    cases s.isStatic <;> rfl
  have hdirs : (if r.includeDirs.isEmpty then []
        else "    Include directories:" :: r.includeDirs.map ("      - " ++ ·))
      = if r.includeDirs = [] then []
        else "    Include directories:" :: r.includeDirs.map fun dir => "      - " ++ dir := by
    simp [List.isEmpty_iff]
  have hanalysis : analysis (l.subjects.map SubjectDecl.model) = .ofFields
      [("models", .list (l.subjects.map (·.model.encode))),
        ("diagnostics", .list
          ((diagnostics (l.subjects.map SubjectDecl.model)).map Diagnostic.listed))] := by
    rw [analysis, List.map_map, funext Diagnostic.encode_eq_listed]
    rfl
  unfold reportLines analysisLines Session.loadingLines Session.loadedLines
  rw [hsummary, hdirs, hanalysis]
  cases r.format with
  | json => simp
  | yaml => simp

/-- The companion that is asked for, as it is shown. -/
def companion (r : AnalyzeRequest) (models : List SubjectModel) (o : Options) :
    Except CommandError String :=
  match r.printProxy with
  | none => .ok ""
  | some name =>
    match find? models name with
    | none => .error (.unknownSubject name)
    | some m => .ok (preview (m.generate o))

section

variable {r : AnalyzeRequest} {o : Options} {name : String}

theorem companion_of_none (h : r.printProxy = none) (models : List SubjectModel) :
    r.companion models o = .ok "" := by
  rw [companion, h]

theorem companion_of_unknown {subjects : List SubjectDecl} (h : r.printProxy = some name)
    (hothers : ∀ s ∈ subjects, s.name ≠ name ∧ s.reference ≠ name) :
    r.companion (subjects.map SubjectDecl.model) o = .error (.unknownSubject name) := by
  simp only [companion, h, find?_models_eq_none hothers]

theorem companion_of_first {before after : List SubjectDecl} {s : SubjectDecl}
    (h : r.printProxy = some name) (hbefore : ∀ s' ∈ before, s'.name ≠ name ∧ s'.reference ≠ name)
    (hs : s.name = name ∨ s.reference = name) :
    r.companion ((before ++ s :: after).map SubjectDecl.model) o
      = .ok (preview (s.model.generate o)) := by
  simp only [companion, h, find?_models_eq_some hbefore hs]

end

/-- The analysis is shown first, whether a companion follows or not. -/
theorem does_run {r : AnalyzeRequest} {t : FileTree} {l : Loader} {config : Option Config}
    {o : Options} (hloaded : t.load r.files r.includeDirs = .ok l)
    (hconfigured : t.configuration r.config false = .ok (config, o)) :
    r.run.Does t ((r.companion (l.subjects.map SubjectDecl.model) o).map fun _ => ())
      (r.shown l
        ++ .output ((r.companion (l.subjects.map SubjectDecl.model) o).toOption.getD "")) t := by
  have hload := Session.does_load_of_ok hloaded true
  -- What is said is taken apart from the left, one session after another.
  rw [shown, reportLines_eq, Transcript.lines_append, Transcript.lines_append,
    Transcript.lines_append, Transcript.lines_append, Transcript.append_assoc,
    Transcript.append_assoc, Transcript.append_assoc]
  apply (Session.does_say _).bind
  apply hload.bind
  apply (Session.does_say _).bind
  apply (Session.does_say _).bind
  rw [companion]
  cases r.printProxy with
  | none => exact Session.does_pure ()
  | some name =>
    apply (Session.does_configure_of_ok hconfigured).bind_silent
    dsimp only
    cases find? (l.subjects.map SubjectDecl.model) name with
    | none => exact Session.does_throw _
    | some m => exact Session.does_put _

end AnalyzeRequest

/-- How the command ends if nothing has the name that it is asked for. -/
theorem CommandError.report_unknownSubject (name : String) :
    (unknownSubject name).report = "Error: subject '" ++ name ++ "' not found\n" := by
  have hlead : "Error: " ++ "subject '" = "Error: subject '" := by decide +kernel
  have hend : "' not found" ++ "\n" = "' not found\n" := by decide +kernel
  calc (unknownSubject name).report
    _ = "Error: " ++ ("subject '" ++ name ++ "' not found") ++ "\n" ++ "" := rfl
    _ = ("Error: " ++ "subject '") ++ name ++ ("' not found" ++ "\n") := by
      simp only [String.append_assoc, String.append_empty]
    _ = "Error: subject '" ++ name ++ "' not found\n" := congrArg₂ (· ++ name ++ ·) hlead hend

/-- The session of the command is that of the request, with a success behind it. -/
theorem run_analyze {words : List String} {r : AnalyzeRequest} {t : FileTree} {l : Loader}
    {config : Option Config} {o : Options} (hwords : Command.ofWords? words = some (.analyze r))
    (hloaded : t.load r.files r.includeDirs = .ok l)
    (hconfigured : t.configuration r.config false = .ok (config, o))
    {outcome : Except CommandError String}
    (h : r.companion (l.subjects.map SubjectDecl.model) o = outcome) :
    (runCommandLine words : StateM FileTree CommandResult).run t
      = (.ofSession (outcome.map fun _ => true)
          (r.shown l ++ .output (outcome.toOption.getD "")), t) := by
  have hdoes := AnalyzeRequest.does_run hloaded hconfigured
  rw [h] at hdoes
  apply run_runCommandLine hwords
  cases outcome with
  | error e => exact hdoes.bind_error
  | ok text =>
    have hsucceeds := hdoes.bind (f := fun _ => pure true) (Session.does_pure true)
    rwa [Transcript.append_empty] at hsucceeds

/-- **Analysing shows what generating would produce.** The diagnostics of the analysis are those of the
    report that a run of the generating command over the same files has, if it has the same
    configuration and no option for conversions; and they are printed with it. A name asks for the
    first subject that has it as its name or its reference. What is printed for it is its entry in that
    report, and if there is no such subject the command fails behind the analysis. -/
theorem analyze_shows_generated {words : List String} {r : AnalyzeRequest} {t : FileTree} {l : Loader}
    {config : Option Config} {o : Options} (hwords : Command.ofWords? words = some (.analyze r))
    (hloaded : t.load r.files r.includeDirs = .ok l)
    (hconfigured : t.configuration r.config false = .ok (config, o))
    (hfree : Sha256.CollisionFree ((Run.mk o l.subjects).requests.map Request.message)) :
    letI report := (generateSubjects o l.subjects {} {}).1
    letI analysis := String.join ((r.reportLines l report.diagnostics).map (· ++ "\n"))
    AnalyzeRequest.diagnostics (l.subjects.map SubjectDecl.model) = report.diagnostics
      ∧ (∀ g : GenerateRequest, g.files = r.files → g.includeDirs = r.includeDirs →
        g.config = r.config → g.implicitConversion = false → l.subjects ≠ [] →
        ∀ folder, g.WritesTo config folder →
        ∀ outcome t', (writeSources folder report.sources :
            Writing (StateM FileTree) _).exec t = (outcome, t') →
          g.run.Comes t ((outcome.mapError .output).map fun _ => !report.hasErrors) t')
      ∧ (r.printProxy = none →
        (runCommandLine words : StateM FileTree CommandResult).run t
          = ({ status := 0, out := analysis, err := "" }, t))
      ∧ ∀ name, r.printProxy = some name →
        ((∀ s ∈ l.subjects, s.name ≠ name ∧ s.reference ≠ name) →
          (runCommandLine words : StateM FileTree CommandResult).run t
            = ({ status := 1, out := analysis
                 err := "Error: subject '" ++ name ++ "' not found\n" }, t))
        ∧ ∀ before s after, l.subjects = before ++ s :: after →
          (∀ s' ∈ before, s'.name ≠ name ∧ s'.reference ≠ name) →
          (s.name = name ∨ s.reference = name) →
            report = ((generateSubjects o before {} {}).1.append
                (({} : Report).add (s.model.generate o))).append (generateSubjects o after {} {}).1
            ∧ ∃ text, (s.model.generate o).Previewed text
              ∧ (runCommandLine words : StateM FileTree CommandResult).run t
                = ({ status := 0, out := analysis ++ text, err := "" }, t) := by
  have hdiagnostics := AnalyzeRequest.diagnostics_eq_generateSubjects hfree
  have hrun : ∀ outcome, r.companion (l.subjects.map SubjectDecl.model) o = outcome →
      (runCommandLine words : StateM FileTree CommandResult).run t
        = (.ofSession (outcome.map fun _ => true)
            { out := String.join ((r.reportLines l
                (generateSubjects o l.subjects {} {}).1.diagnostics).map (· ++ "\n"))
                ++ outcome.toOption.getD "" }, t) := by
    intro outcome h
    rw [run_analyze hwords hloaded hconfigured h, AnalyzeRequest.shown, hdiagnostics]
    rfl
  refine ⟨hdiagnostics, ?_, ?_, ?_⟩
  · rintro g hfiles hdirs hconfig hconversion hdeclared folder hfolder outcome t' hwritten
    rw [GenerateRequest.writesTo_iff.mp hfolder] at hwritten
    refine GenerateRequest.comes_run_of_declared ?_ ?_ hdeclared hwritten
    · rw [hconfig, hconversion, hconfigured]
    · rw [hfiles, hdirs, hloaded]
  · intro hnone
    refine (hrun _ (AnalyzeRequest.companion_of_none hnone _)).trans ?_
    simp [CommandResult.ofSession, Except.map, Except.toOption]
  · intro name hname
    constructor
    · intro hothers
      refine (hrun _ (AnalyzeRequest.companion_of_unknown hname hothers)).trans ?_
      simp [CommandResult.ofSession, Except.map, Except.toOption,
        CommandError.report_unknownSubject, CommandError.status, CommandError.isFatal]
    · intro before s after hsplit hbefore hs
      have hcompanion : r.companion (l.subjects.map SubjectDecl.model) o
          = .ok (AnalyzeRequest.preview (s.model.generate o)) := by
        rw [hsplit]
        exact AnalyzeRequest.companion_of_first hname hbefore hs
      refine ⟨?_, _, (s.model.generate o).previewed_preview, hrun _ hcompanion⟩
      rw [hsplit] at hfree ⊢
      exact generateSubjects_between hfree

/-- What is said of the static one of the pair. -/
def hostDiagnostic : Diagnostic where
  id := "RFL0001"
  title := "Unsupported Static Type"
  message := "Unsupported static type 'H'. Static types will be supported from a future release onward."
  severity := .error
  category := "Usage"
  location := none

/-- The analysis of the tree with the pair, line by line. -/
def pairLines : List String :=
  ["Proxy Generator - Member Model Analysis",
    "=======================================",
    "",
    "[~] Loading declaration manifests and resolving imports...",
    "",
    "[~] Loaded 1 file(s) total (including imports)",
    "[~] Assemblies loaded:",
    "    - A",
    "[~] Subjects:",
    "    - U",
    "    - H",
    "",
    "[✓] U: 0 propert(ies), 0 method(s)",
    "[✗] H: 0 propert(ies), 0 method(s)",
    "",
    "[~] Member Models (JSON)",
    "========================",
    Json.pretty (.ofFields
      [("models", .list (pairSubjects.map (·.model.encode))),
        ("diagnostics", .list [hostDiagnostic.listed])]),
    ""]

/-- Of the pair the one class is shown as it is generated, and of the other one it is said that there is
    no companion. A third one is not found. -/
theorem analyze_shows_pair :
    letI user : SubjectDecl := { name := "U", reference := "U" }
    letI analysis := String.join (pairLines.map (· ++ "\n"))
    letI answer (name : String) : CommandResult × FileTree :=
      (runCommandLine ["analyze", "-f", "a", "--print-proxy", name] :
        StateM FileTree CommandResult).run pairTree
    answer "U" = ({ status := 0
                    out := analysis ++ ("[~] UProxy.g.cs\n==============================\n"
                      ++ (user.model.source {}).text) }, pairTree)
      ∧ answer "H" = ({ status := 0
                        out := analysis ++ ("[✗] error RFL0001: Unsupported static type 'H'. "
                          ++ "Static types will be supported from a future release onward.\n") },
        pairTree)
      ∧ answer "X" = ({ status := 1, out := analysis
                        err := "Error: subject 'X' not found\n" }, pairTree) := by
  let user : SubjectDecl := { name := "U", reference := "U" }
  let request (name : String) : AnalyzeRequest := { files := ["a"], printProxy := some name }
  have hconfigured : pairTree.configuration none false = .ok (none, {}) := by decide +kernel
  have hfree : Sha256.CollisionFree ((Run.mk {} pairLoader.subjects).requests.map Request.message) :=
    collisionFree_pairSubjects
  have hshown (name : String)
      (hwords : Command.ofWords? ["analyze", "-f", "a", "--print-proxy", name]
        = some (.analyze (request name))) :=
    analyze_shows_generated hwords load_pairTree hconfigured hfree
  have hreported : AnalyzeRequest.diagnostics (pairLoader.subjects.map SubjectDecl.model)
      = [hostDiagnostic] := by
    decide +kernel
  have hassemblies : pairLoader.assemblies = ["A"] := by decide +kernel
  have hlines (name : String) : (request name).reportLines pairLoader
      (generateSubjects {} pairLoader.subjects {} {}).1.diagnostics = pairLines := by
    rw [← (hshown "U" rfl).1, hreported, AnalyzeRequest.reportLines, hassemblies]
    rfl
  refine ⟨?_, ?_, ?_⟩
  · obtain ⟨-, text, htext, hrun⟩ := ((hshown "U" rfl).2.2.2 "U" rfl).2 [] _ _ rfl (by simp) (.inl rfl)
    have hfront : "[~] " ++ "UProxy.g.cs" ++ "\n==============================\n"
        = "[~] UProxy.g.cs\n==============================\n" := by
      decide +kernel
    have hcompanion : text = "[~] UProxy.g.cs\n==============================\n"
        ++ (user.model.source {}).text := by
      rw [← hfront]
      cases htext
      rfl
    rw [hlines, hcompanion] at hrun
    exact hrun
  · obtain ⟨-, text, htext, hrun⟩ :=
      ((hshown "H" rfl).2.2.2 "H" rfl).2 [_] _ _ rfl (by simp) (.inl rfl)
    rw [hlines] at hrun
    have hline : text = "[✗] error RFL0001: Unsupported static type 'H'. "
        ++ "Static types will be supported from a future release onward.\n" := by
      cases htext with
      | diagnostic htext =>
        cases htext with
        | unplaced _ => decide +kernel
        | placed hlocation => cases hlocation
    rw [hline] at hrun
    exact hrun
  · have hrun := ((hshown "X" rfl).2.2.2 "X" rfl).1 (by decide)
    have hcomplaint :
        "Error: subject '" ++ "X" ++ "' not found\n" = "Error: subject 'X' not found\n" := by
      decide +kernel
    rw [hlines, hcomplaint] at hrun
    exact hrun

end Companion
