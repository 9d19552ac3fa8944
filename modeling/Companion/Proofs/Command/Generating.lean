import Companion.Proofs.Command.OnTree
import Companion.Proofs.Output

/-!
# Generating on a tree of files

Whether the generating command writes anything is settled by what it reads. If the configuration, the
manifests and the generated sources are as they have to be (`GenerateRequest.Prepared`), the sources
are written one after another, and nothing else is; otherwise the tree is left as it is. Static
subjects decide the status and nothing else:

> **the command writes all sources or leaves the tree alone** (`generates_all_or_nothing`).
-/

namespace Companion

namespace GenerateRequest

/-- The folder that sources go to: that of the request, or else that of the configuration, or else
    the one that is always there to fall back on. -/
inductive WritesTo (r : GenerateRequest) (config : Option Config) : String → Prop where
  | asked {folder : String} (h : r.outputDir = some folder) : WritesTo r config folder
  | configured {c : Config} {folder : String} (hunasked : r.outputDir = none)
      (hconfig : config = some c) (h : c.outputDir = some folder) : WritesTo r config folder
  | fallback (hunasked : r.outputDir = none) (h : ∀ c, config = some c → c.outputDir = none) :
    WritesTo r config "generated"

theorem writesTo_iff {r : GenerateRequest} {config : Option Config} {folder : String} :
    r.WritesTo config folder ↔ folder = r.folder config := by
  unfold GenerateRequest.folder
  constructor
  · rintro (h | ⟨hunasked, rfl, h⟩ | ⟨hunasked, h⟩)
    · simp [h]
    · simp [hunasked, h]
    · cases config with
      | none => simp [hunasked, defaultOutputDir]
      | some c => simp [hunasked, h c rfl, defaultOutputDir]
  · rintro rfl
    cases hasked : r.outputDir with
    | some folder => exact .asked hasked
    | none =>
      cases config with
      | none => exact .fallback hasked (by simp)
      | some c =>
        cases hc : c.outputDir with
        | some folder => simpa [hc] using WritesTo.configured hasked rfl hc
        | none =>
          have hfallback : r.WritesTo (some c) "generated" := .fallback hasked (by simp [hc])
          simpa [hc, defaultOutputDir] using hfallback

/-- All that has to be right before anything is written. -/
structure Prepared (r : GenerateRequest) (t : FileTree) (config : Option Config) (o : Options)
    (l : Loader) : Prop where
  configured : t.configuration r.config r.implicitConversion = .ok (config, o)
  loaded : t.load r.files r.includeDirs = .ok l
  declared : l.subjects ≠ []
  distinct : ((generateSubjects o l.subjects {} {}).1.sources.map (·.hintName)).Nodup

/-- A text that the command comes to read has a scalar that does not fit. -/
def Overflows (r : GenerateRequest) (t : FileTree) : Prop :=
  t.configuration r.config r.implicitConversion = .error .overflow
    ∨ (∃ config o, t.configuration r.config r.implicitConversion = .ok (config, o))
      ∧ t.load r.files r.includeDirs = .error .overflow

/-! ## One stage after another -/

section

variable {r : GenerateRequest} {t t' : FileTree} {config : Option Config} {o : Options} {l : Loader}

theorem comes_run_of_unconfigured {e : ConfigError}
    (h : t.configuration r.config r.implicitConversion = .error e) :
    r.run.Comes t (.error (.config e)) t :=
  (Session.does_configure_of_error h).bind_error.comes

/-- Behind the configuration comes the loading. -/
theorem comes_run_of_unloaded
    (hconfigured : t.configuration r.config r.implicitConversion = .ok (config, o)) {e : LoadError}
    (h : t.load r.files r.includeDirs = .error e) : r.run.Comes t (.error (.load e)) t := by
  apply (Session.does_configure_of_ok hconfigured).bind_comes
  apply Session.Comes.saidIf
  exact (Session.does_load_of_error h r.verbose).bind_error.comes

theorem comes_run_of_undeclared
    (hconfigured : t.configuration r.config r.implicitConversion = .ok (config, o))
    (hloaded : t.load r.files r.includeDirs = .ok l) (h : l.subjects = []) :
    r.run.Comes t (.error (.noSubjects r.files.length)) t := by
  have hnone : l.subjects.isEmpty = true := by simp [h]
  apply (Session.does_configure_of_ok hconfigured).bind_comes
  apply Session.Comes.saidIf
  apply (Session.does_load_of_ok hloaded r.verbose).bind_comes
  simp only [hnone, if_true]
  exact (Session.does_throw _).bind_error.comes

/-- Behind all the others comes the writing. If it fails, so does the command, and otherwise the report
    decides. -/
theorem comes_run_of_declared
    (hconfigured : t.configuration r.config r.implicitConversion = .ok (config, o))
    (hloaded : t.load r.files r.includeDirs = .ok l) (hdeclared : l.subjects ≠ [])
    {outcome : Except OutputError (List String)}
    (h : (writeSources (r.folder config) (generateSubjects o l.subjects {} {}).1.sources :
      Writing (StateM FileTree) _).exec t = (outcome, t')) :
    r.run.Comes t
      ((outcome.mapError .output).map fun _ => !(generateSubjects o l.subjects {} {}).1.hasErrors)
      t' := by
  have hsome : l.subjects.isEmpty = false := by simpa using hdeclared
  have hwrite := Session.does_ask (t := t)
    (writeSources (r.folder config) (generateSubjects o l.subjects {} {}).1.sources).run
  have hwritten : (writeSources (r.folder config) (generateSubjects o l.subjects {} {}).1.sources :
      Writing (StateM FileTree) _).run t = (outcome, t') := h
  rw [hwritten] at hwrite
  apply (Session.does_configure_of_ok hconfigured).bind_comes
  apply Session.Comes.saidIf
  apply (Session.does_load_of_ok hloaded r.verbose).bind_comes
  simp only [hsome, Bool.false_eq_true, if_false]
  apply (Session.does_complain _).bind_comes
  apply (Session.does_say _).bind_comes
  apply hwrite.bind_comes
  cases outcome with
  | error e => exact (Session.does_throw _).bind_error.comes
  | ok written =>
    apply (Session.does_pure written).bind_comes
    apply Session.Comes.saidIf (f := fun _ => do
      Session.say [closingLine (r.folder config) written.length (generateSubjects o l.subjects {} {}).1]
      return !(generateSubjects o l.subjects {} {}).1.hasErrors)
    apply (Session.does_say _).bind_comes
    exact (Session.does_pure _).comes

end

end GenerateRequest

/-! ## The report decides the status -/

theorem Report.hasErrors_ofOutcomes (outcomes : List Outcome) :
    (ofOutcomes outcomes).hasErrors
      = outcomes.any fun outcome => outcome.diagnostic?.any Diagnostic.isError := by
  rw [hasErrors, ofOutcomes, List.any_filterMap]
  rfl

/-- Of a subject there is an error if and only if it is static. -/
theorem SubjectDecl.isError_generate (s : SubjectDecl) (o : Options) :
    (s.model.generate o).diagnostic?.any Diagnostic.isError = s.isStatic := by
  cases hstatic : s.isStatic with
  | true =>
    have hfate : s.fate = .reported := by rw [fate, if_pos hstatic]
    rw [generate_of_reported hfate]
    rfl
  | false =>
    have hfate := fate_generate s o
    rw [fate, if_neg (by simp [hstatic])] at hfate
    cases hgenerate : s.model.generate o with
    | source _ => rfl
    | skipped _ _ => rfl
    | diagnostic d =>
      rw [hgenerate, Outcome.fate] at hfate
      split at hfate <;> cases hfate

/-! ## Prepared or not -/

namespace GenerateRequest

section

variable {r : GenerateRequest} {t t' : FileTree}

theorem overflows_iff_of_unconfigured {e : ConfigError}
    (h : t.configuration r.config r.implicitConversion = .error e) :
    r.Overflows t ↔ e = .overflow := by
  rw [Overflows, h]
  simp

theorem overflows_iff_of_unloaded {config : Option Config} {o : Options} {e : LoadError}
    (hconfigured : t.configuration r.config r.implicitConversion = .ok (config, o))
    (h : t.load r.files r.includeDirs = .error e) : r.Overflows t ↔ e = .overflow := by
  rw [Overflows, hconfigured, h]
  simp

theorem not_overflows_of_loaded {config : Option Config} {o : Options} {l : Loader}
    (hconfigured : t.configuration r.config r.implicitConversion = .ok (config, o))
    (h : t.load r.files r.includeDirs = .ok l) : ¬ r.Overflows t := by
  rw [Overflows, hconfigured, h]
  simp

/-- What is not prepared fails with the tree as it was. There is one case for each stage, in the order
    in which the command comes to them. -/
theorem comes_run_of_unprepared (h : ¬ ∃ config o l, r.Prepared t config o l) :
    ∃ e : CommandError, r.run.Comes t (.error e) t
      ∧ (r.Overflows t → e.status = 101) ∧ (¬ r.Overflows t → e.status = 1) := by
  cases hconfigured : t.configuration r.config r.implicitConversion with
  | error e =>
    refine ⟨_, comes_run_of_unconfigured hconfigured, ?_⟩
    rw [status_config, overflows_iff_of_unconfigured hconfigured]
    exact ⟨fun h => if_pos h, fun h => if_neg h⟩
  | ok found =>
    obtain ⟨config, o⟩ := found
    cases hloaded : t.load r.files r.includeDirs with
    | error e =>
      refine ⟨_, comes_run_of_unloaded hconfigured hloaded, ?_⟩
      rw [status_load, overflows_iff_of_unloaded hconfigured hloaded]
      exact ⟨fun h => if_pos h, fun h => if_neg h⟩
    | ok l =>
      have hfits := not_overflows_of_loaded hconfigured hloaded
      by_cases hdeclared : l.subjects = []
      · refine ⟨_, comes_run_of_undeclared hconfigured hloaded hdeclared, ?_⟩
        exact ⟨fun hoverflows => absurd hoverflows hfits, fun _ => rfl⟩
      · have hclash : ¬ ((generateSubjects o l.subjects {} {}).1.sources.map (·.hintName)).Nodup := by
          intro hdistinct
          exact h ⟨config, o, l, hconfigured, hloaded, hdeclared, hdistinct⟩
        obtain ⟨hintName, first, second, hrefused⟩ :=
          exec_writeSources_of_clash (r.folder config) hclash t
        refine ⟨_, comes_run_of_declared hconfigured hloaded hdeclared hrefused, ?_⟩
        exact ⟨fun hoverflows => absurd hoverflows hfits, fun _ => rfl⟩

/-- What is prepared succeeds unless a subject is static, if the folder is made and every source is
    stored. -/
theorem comes_run_of_prepared {config : Option Config} {o : Options} {l : Loader} {made : FileTree}
    (hprepared : r.Prepared t config o l)
    (hfree : Sha256.CollisionFree ((Run.mk o l.subjects).requests.map Request.message))
    (hmade : t.makeFolders (r.folder config) = (made, .ok ()))
    (hstore : made.store (r.folder config)
      (Report.ofOutcomes (l.subjects.map (·.model.generate o))).sources = .ok t') :
    r.run.Comes t (.ok (!l.subjects.any (·.isStatic))) t' := by
  have hreport := generateSubjects_eq_ofOutcomes hfree
  rw [← hreport] at hstore
  have hwritten := exec_writeSources_eq_ok.mpr ⟨hprepared.distinct, rfl, made, hmade, hstore⟩
  have hfailed : (generateSubjects o l.subjects {} {}).1.hasErrors
      = l.subjects.any (·.isStatic) := by
    rw [hreport, Report.hasErrors_ofOutcomes, List.any_map]
    congr 1
    funext s
    exact s.isError_generate o
  rw [← hfailed]
  exact comes_run_of_declared hprepared.configured hprepared.loaded hprepared.declared hwritten

end

end GenerateRequest

/-! ## The command -/

/-- **The command writes all sources or leaves the tree alone.** What is not prepared makes it fail in
    front of the first write, with the status of an abort if a text overflows. What is prepared is
    written, provided no write is refused: a source for every subject that is not static and a class
    or a record, in the order of the subjects, and nothing else. They go to the folder of the request,
    or else to that of the configuration, or else to the one for all others. -/
theorem generates_all_or_nothing {words : List String} {r : GenerateRequest}
    (hwords : Command.ofWords? words = some (.generate r)) (t : FileTree) :
    ((¬ ∃ config o l, r.Prepared t config o l) →
      ∃ result, (runCommandLine words : StateM FileTree CommandResult).run t = (result, t)
        ∧ (r.Overflows t → result.status = 101) ∧ (¬ r.Overflows t → result.status = 1))
    ∧ ∀ config o l, r.Prepared t config o l →
      Sha256.CollisionFree ((Run.mk o l.subjects).requests.map Request.message) →
      ∃ (folder : String) (sources : List GeneratedSource), r.WritesTo config folder
          ∧ sources.map .source = (l.subjects.filter (·.fate = .sourced)).map (·.model.generate o)
          ∧ ∀ made t', t.makeFolders folder = (made, .ok ()) →
            made.store folder sources = .ok t' →
            ∃ result, (runCommandLine words : StateM FileTree CommandResult).run t = (result, t')
              ∧ result.status = if l.subjects.any (·.isStatic) then 1 else 0 := by
  constructor
  · intro hunprepared
    obtain ⟨e, ⟨spoken, hdoes⟩, hstatus⟩ := GenerateRequest.comes_run_of_unprepared hunprepared
    refine ⟨_, run_runCommandLine hwords hdoes, ?_⟩
    rw [status_ofSession_error]
    exact hstatus
  · intro config o l hprepared hfree
    refine ⟨_, _, GenerateRequest.writesTo_iff.mpr rfl,
      (Report.sorts_ofOutcomes o l.subjects).sources, ?_⟩
    intro made t' hmade hstore
    obtain ⟨spoken, hdoes⟩ :=
      GenerateRequest.comes_run_of_prepared hprepared hfree hmade hstore
    refine ⟨_, run_runCommandLine hwords hdoes, ?_⟩
    rw [status_ofSession_ok]
    cases l.subjects.any (·.isStatic) <;> rfl

/-- The class is written although the other one is static, which makes the command fail. -/
theorem generates_pair :
    letI user : SubjectDecl := { name := "U", reference := "U" }
    ∃ result made t', pairTree.makeFolders "out" = (made, .ok ())
      ∧ made.store "out" [user.model.source {}] = .ok t'
      ∧ (runCommandLine ["generate", "-f", "a", "-o", "out"] : StateM FileTree CommandResult).run
          pairTree = (result, t')
      ∧ result.status = 1 := by
  have hwords : Command.ofWords? ["generate", "-f", "a", "-o", "out"]
      = some (.generate { files := ["a"], outputDir := some "out" }) := by
    rfl
  have hsubjects : pairLoader.subjects = pairSubjects := rfl
  have hfree : Sha256.CollisionFree ((Run.mk {} pairLoader.subjects).requests.map Request.message) :=
    collisionFree_pairSubjects
  have hprepared : GenerateRequest.Prepared { files := ["a"], outputDir := some "out" } pairTree none
      {} pairLoader := by
    refine ⟨by decide +kernel, load_pairTree, by simp [hsubjects, pairSubjects], ?_⟩
    rw [generateSubjects_eq_ofOutcomes hfree, hsubjects]
    decide
  obtain ⟨folder, sources, hfolder, hsources, hwrites⟩ :=
    (generates_all_or_nothing hwords pairTree).2 none {} pairLoader hprepared hfree
  obtain rfl : sources = [({ name := "U", reference := "U" } : SubjectDecl).model.source {}] := by
    refine List.map_injective_iff.mpr (fun _ _ => Outcome.source.inj) ?_
    rw [hsources, hsubjects]
    rfl
  obtain rfl : folder = "out" := GenerateRequest.writesTo_iff.mp hfolder
  obtain ⟨made, hmade⟩ : ∃ made, pairTree.makeFolders "out" = (made, .ok ()) := ⟨_, rfl⟩
  obtain ⟨t', hstore⟩ : ∃ t', made.store "out"
      [({ name := "U", reference := "U" } : SubjectDecl).model.source {}] = .ok t' := by
    cases hmade
    exact ⟨_, rfl⟩
  obtain ⟨result, hrun, hstatus⟩ := hwrites made t' hmade hstore
  refine ⟨result, made, t', hmade, hstore, hrun, ?_⟩
  rw [hstatus, hsubjects]
  rfl

/-- A configuration of one field, with a scalar that does not fit. -/
def wideTree : FileTree where
  entries := [(["w"], .folder), (["w", "c"], .file (some "output-dir: 'a                 b'\n"))]
  home := ["w"]

/-- No configuration comes of it, and yet the status is not that of a refusal. -/
theorem overflow_aborts :
    wideTree.configuration (some "c") false = .error .overflow
      ∧ ∃ result, (runCommandLine ["generate", "-f", "a", "--config", "c"] :
          StateM FileTree CommandResult).run wideTree = (result, wideTree)
        ∧ result.status = 101 := by
  have hconfigured : wideTree.configuration (some "c") false = .error .overflow := by
    have hread : wideTree.read "c" = .ok "output-dir: 'a                 b'\n" := by decide +kernel
    have htokens : Yaml.tokens "output-dir: 'a                 b'\n"
        = [.blockMappingStart, .key, .scalar "output-dir" .plain, .value, .broken .overflow] := by
      decide +kernel
    have hparse : Config.parse "c" "output-dir: 'a                 b'\n" = .error .overflow := by
      rw [Config.parse, Config.ofText, if_neg (by decide), Yaml.load, htokens]
      cbv
    simp [FileTree.configuration, FileTree.config, hread, hparse, bind, Except.bind]
  have hwords : Command.ofWords? ["generate", "-f", "a", "--config", "c"]
      = some (.generate { files := ["a"], config := some "c" }) := by
    rfl
  obtain ⟨spoken, hdoes⟩ :=
    GenerateRequest.comes_run_of_unconfigured (r := { files := ["a"], config := some "c" }) hconfigured
  exact ⟨hconfigured, _, run_runCommandLine hwords hdoes, rfl⟩

end Companion
