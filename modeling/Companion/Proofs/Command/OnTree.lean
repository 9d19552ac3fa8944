import Companion.Command.Run
import Companion.Proofs.Loading.OnTree
import Companion.Proofs.Reports

/-!
# Commands on a tree of files

A session on a tree comes to an outcome, says something, and leaves a tree (`Session.Does`). What it
says does not depend on what was said before, so sessions compose: the outcome of one decides whether
the next one starts, and what they say stands one behind the other.

A session that reads a configuration or loads files leaves the tree alone. Both come to values of the
tree (`FileTree.configuration`, `FileTree.load`), and what a command does in front of its writes is a
matter of these values.
-/

namespace Companion

/-! ## What a tree answers -/

namespace FileTree

/-- The configuration in a file. -/
def config (t : FileTree) (path : String) : Except ConfigError Config :=
  match t.read path with
  | .ok text => Config.parse path text
  | .error cause => .error (.io path cause)

/-- The configuration that a request names, and the options of a run with it. -/
def configuration (t : FileTree) (path? : Option String) (implicitConversion : Bool) :
    Except ConfigError (Option Config × Options) := do
  let config ← path?.mapM t.config
  let o ← (Options.resolve config implicitConversion).mapError .options
  return (config, o)

/-- What a new loader has when it has loaded files with all that they import. -/
def load (t : FileTree) (files includeDirs : List String) : Except LoadError Loader :=
  letI := t.frozen
  match (Loader.loadAll files).exec { includeDirs } with
  | (.ok (), l) => .ok l
  | (.error e, _) => .error e

end FileTree

/-! ## Transcripts -/

namespace Transcript

/-- Output only. -/
def output (text : String) : Transcript := { out := text }

def lines (ls : List String) : Transcript := output (String.join (ls.map (· ++ "\n")))

/-- Complaints only. -/
def complaints (ls : List String) : Transcript := { err := String.join (ls.map (· ++ "\n")) }

instance : Append Transcript where
  append a b := { out := a.out ++ b.out, err := a.err ++ b.err }

theorem append_empty (a : Transcript) : a ++ ({} : Transcript) = a := by
  show ({ out := a.out ++ "", err := a.err ++ "" } : Transcript) = a
  rw [String.append_empty, String.append_empty]

theorem empty_append (a : Transcript) : ({} : Transcript) ++ a = a := by
  show ({ out := "" ++ a.out, err := "" ++ a.err } : Transcript) = a
  rw [String.empty_append, String.empty_append]

theorem append_assoc (a b c : Transcript) : a ++ b ++ c = a ++ (b ++ c) := by
  show ({ out := a.out ++ b.out ++ c.out, err := a.err ++ b.err ++ c.err } : Transcript)
    = { out := a.out ++ (b.out ++ c.out), err := a.err ++ (b.err ++ c.err) }
  rw [String.append_assoc, String.append_assoc]

theorem lines_append (ls ms : List String) : lines (ls ++ ms) = lines ls ++ lines ms := by
  show ({ out := String.join ((ls ++ ms).map (· ++ "\n")) } : Transcript)
    = { out := String.join (ls.map (· ++ "\n")) ++ String.join (ms.map (· ++ "\n"))
        err := "" ++ "" }
  rw [List.map_append, String.join_append]
  rfl

end Transcript

/-! ## Sessions -/

namespace Session

/-- On the tree the session comes to the outcome, says so much more, and leaves the other tree. -/
def Does {α : Type} (x : Session (StateM FileTree) α) (t : FileTree)
    (outcome : Except CommandError α) (spoken : Transcript) (t' : FileTree) : Prop :=
  ∀ said, (x.run.run said).run t = ((outcome, said ++ spoken), t')

section

variable {α β : Type} {t between t' : FileTree} {spoken more : Transcript}
  {x : Session (StateM FileTree) α} {f : α → Session (StateM FileTree) β}
  {outcome : Except CommandError β}

theorem does_pure (a : α) : Does (pure a) t (.ok a) {} t := by
  intro said
  rw [Transcript.append_empty]
  rfl

theorem does_throw (e : CommandError) : Does (α := α) (throw e) t (.error e) {} t := by
  intro said
  rw [Transcript.append_empty]
  rfl

/-- A request to the tree, whatever the answer. -/
theorem does_ask (x : StateM FileTree α) : Does (liftM x) t (.ok (x t).1) {} (x t).2 := by
  intro said
  rw [Transcript.append_empty]
  rfl

theorem does_put (text : String) : Does (put text) t (.ok ()) (.output text) t := by
  intro said
  show ((Except.ok (), { said with out := said.out ++ text }), t)
    = ((Except.ok (), { out := said.out ++ text, err := said.err ++ "" }), t)
  rw [String.append_empty]

theorem does_say (ls : List String) : Does (say ls) t (.ok ()) (.lines ls) t :=
  does_put _

theorem does_complain (ls : List String) : Does (complain ls) t (.ok ()) (.complaints ls) t := by
  intro said
  show ((Except.ok (), { said with err := said.err ++ String.join (ls.map (· ++ "\n")) }), t)
    = ((Except.ok (),
      { out := said.out ++ "", err := said.err ++ String.join (ls.map (· ++ "\n")) }), t)
  rw [String.append_empty]

theorem does_orFail {ε : Type} (wrap : ε → CommandError) (answer : Except ε α) :
    Does (orFail wrap answer) t (answer.mapError wrap) {} t := by
  cases answer with
  | ok a => exact does_pure a
  | error e => exact does_throw (wrap e)

/-- Behind a session that succeeds the next one starts. -/
theorem Does.bind {a : α} (hx : x.Does t (.ok a) spoken between)
    (hf : (f a).Does between outcome more t') : (x >>= f).Does t outcome (spoken ++ more) t' := by
  intro said
  have hx' : x said t = ((.ok a, said ++ spoken), between) := hx said
  show ExceptT.bindCont f (x said t).1.1 (x said t).1.2 (x said t).2 = _
  rw [hx', ← Transcript.append_assoc]
  exact hf (said ++ spoken)

theorem Does.bind_silent {a : α} (hx : x.Does t (.ok a) {} between)
    (hf : (f a).Does between outcome more t') : (x >>= f).Does t outcome more t' := by
  rw [← Transcript.empty_append more]
  exact hx.bind hf

/-- Behind a session that fails nothing starts. -/
theorem Does.bind_error {e : CommandError} (hx : x.Does t (.error e) spoken t') :
    (x >>= f).Does t (.error e) spoken t' := by
  intro said
  have hx' : x said t = ((.error e, said ++ spoken), t') := hx said
  show ExceptT.bindCont f (x said t).1.1 (x said t).1.2 (x said t).2 = _
  rw [hx']
  rfl

theorem Does.map {outcome : Except CommandError α} (g : α → β) (hx : x.Does t outcome spoken t') :
    (g <$> x).Does t (outcome.map g) spoken t' := by
  rw [← bind_pure_comp]
  cases outcome with
  | error e => exact hx.bind_error
  | ok a =>
    have hg := hx.bind (f := fun a => pure (g a)) (does_pure (g a))
    rwa [Transcript.append_empty] at hg

/-- Lines that are said on a condition make no difference but to what is said. -/
theorem Does.saidIf {f : Unit → Session (StateM FileTree) β} (asked : Bool) (ls : List String)
    (hf : (f ()).Does t outcome more t') :
    Does (if asked = true then say ls >>= f else f ()) t outcome
      ((if asked then .lines ls else {}) ++ more) t' := by
  cases asked with
  | true => exact (does_say ls).bind hf
  | false =>
    intro said
    rw [← Transcript.append_assoc, if_neg Bool.false_ne_true, if_neg Bool.false_ne_true,
      Transcript.append_empty]
    exact hf said

/-- The session comes to the outcome, whatever it says on the way. -/
def Comes (x : Session (StateM FileTree) α) (t : FileTree) (outcome : Except CommandError α)
    (t' : FileTree) : Prop :=
  ∃ spoken, x.Does t outcome spoken t'

theorem Does.comes {outcome : Except CommandError α} (h : x.Does t outcome spoken t') :
    x.Comes t outcome t' :=
  ⟨spoken, h⟩

theorem Does.bind_comes {a : α} (hx : x.Does t (.ok a) spoken between)
    (hf : (f a).Comes between outcome t') : (x >>= f).Comes t outcome t' := by
  obtain ⟨more, hf⟩ := hf
  exact (hx.bind hf).comes

theorem Comes.saidIf {f : Unit → Session (StateM FileTree) β} (asked : Bool) (ls : List String)
    (hf : (f ()).Comes t outcome t') :
    Comes (if asked = true then say ls >>= f else f ()) t outcome t' := by
  obtain ⟨more, hf⟩ := hf
  exact (Does.saidIf asked ls hf).comes

/-! ## Configuring and loading -/

theorem does_resolve (config : Option Config) (flag : Bool) :
    Does (do
        let o ← orFail (.config ∘ .options) (Options.resolve config flag)
        return (config, o)) t
      ((do
        let o ← (Options.resolve config flag).mapError ConfigError.options
        return (config, o) : Except ConfigError _).mapError .config) {} t := by
  have hresolve := does_orFail (t := t) (.config ∘ .options) (Options.resolve config flag)
  cases h : Options.resolve config flag with
  | ok o =>
    rw [h] at hresolve
    exact hresolve.bind_silent (does_pure _)
  | error e =>
    rw [h] at hresolve
    exact hresolve.bind_error

theorem run_load_config (path : String) :
    (Config.load path : StateM FileTree _) t = (t.config path, t) := by
  show (match t.read path with
    | .ok text => (pure (Config.parse path text) : StateM FileTree _)
    | .error cause => pure (.error (.io path cause))) t = _
  rw [FileTree.config]
  cases t.read path <;> rfl

theorem does_configure (path? : Option String) (flag : Bool) :
    (configure path? flag).Does t ((t.configuration path? flag).mapError .config) {} t := by
  cases path? with
  | none => exact (does_pure none).bind_silent (does_resolve none flag)
  | some path =>
    have hasked := does_ask (t := t) (Config.load path)
    rw [run_load_config] at hasked
    refine hasked.bind_silent ?_
    rw [FileTree.configuration, Option.mapM]
    cases t.config path with
    | error e => exact ((does_throw _).map some).bind_error
    | ok config => exact ((does_pure config).map some).bind_silent (does_resolve (some config) flag)

theorem does_configure_of_ok {path? : Option String} {flag : Bool}
    {found : Option Config × Options} (h : t.configuration path? flag = .ok found) :
    (configure path? flag).Does t (.ok found) {} t := by
  have hconfigure := does_configure (t := t) path? flag
  rw [h] at hconfigure
  exact hconfigure

theorem does_configure_of_error {path? : Option String} {flag : Bool} {e : ConfigError}
    (h : t.configuration path? flag = .error e) :
    (configure path? flag).Does t (.error (.config e)) {} t := by
  have hconfigure := does_configure (t := t) path? flag
  rw [h] at hconfigure
  exact hconfigure

/-- A loader that fails or succeeds on a tree does so on the tree's answers. -/
theorem does_loadAll (files includeDirs : List String) :
    letI := t.frozen
    Does (liftM ((Loader.loadAll files : Loading (StateM FileTree) Unit).run.run { includeDirs })) t
      (.ok ((Loader.loadAll files).exec { includeDirs })) {} t := by
  have hasked := does_ask (t := t)
    ((Loader.loadAll files : Loading (StateM FileTree) Unit).run.run { includeDirs })
  have hmirrors := Loader.mirrors_loadAll (t := t) files { includeDirs }
  have hmirrors' : ((Loader.loadAll files : Loading (StateM FileTree) Unit).run.run { includeDirs }) t
      = _ := hmirrors
  rw [hmirrors'] at hasked
  exact hasked

theorem does_load_of_ok {files includeDirs : List String} {l : Loader}
    (h : t.load files includeDirs = .ok l) (verbose : Bool) :
    (load files includeDirs verbose).Does t (.ok l)
      ((if verbose then .lines (loadingLines includeDirs) else {})
        ++ if verbose then .lines (loadedLines l) else {}) t := by
  unfold load
  rw [← Transcript.append_empty (if verbose = true then .lines (loadedLines l) else {})]
  refine .saidIf verbose _ ?_
  refine (does_loadAll files includeDirs).bind_silent ?_
  unfold FileTree.load at h
  split at h
  · next l' hload =>
    cases h
    rw [hload]
    exact (does_pure ()).bind_silent (.saidIf verbose _ (does_pure _))
  · cases h

theorem does_load_of_error {files includeDirs : List String} {e : LoadError}
    (h : t.load files includeDirs = .error e) (verbose : Bool) :
    (load files includeDirs verbose).Does t (.error (.load e))
      (if verbose then .lines (loadingLines includeDirs) else {}) t := by
  unfold load
  rw [← Transcript.append_empty (if verbose = true then .lines (loadingLines includeDirs) else {})]
  refine .saidIf verbose _ ?_
  refine (does_loadAll files includeDirs).bind_silent ?_
  unfold FileTree.load at h
  split at h
  · cases h
  · next e' l' hload =>
    cases h
    rw [hload]
    exact (does_throw _).bind_error

end

end Session

/-! ## Command lines -/

section

variable {words : List String} {command : Command} {t t' : FileTree}
  {outcome : Except CommandError Bool} {spoken : Transcript}

/-- What a command line comes to on a tree. -/
theorem run_runCommandLine (hwords : Command.ofWords? words = some command)
    (h : (command.run : Session (StateM FileTree) Bool).Does t outcome spoken t') :
    (runCommandLine words : StateM FileTree CommandResult).run t
      = (.ofSession outcome spoken, t') := by
  have hrun : ((command.run : Session (StateM FileTree) Bool).run.run {}).run t
      = ((outcome, {} ++ spoken), t') := h {}
  rw [Transcript.empty_append] at hrun
  rw [runCommandLine, hwords]
  show (((command.run : Session (StateM FileTree) Bool).run.run {}) >>= _).run t = _
  rw [StateT.run_bind, hrun]
  rfl

theorem status_ofSession_error (e : CommandError) :
    (CommandResult.ofSession (.error e) spoken).status = e.status := rfl

theorem status_ofSession_ok (succeeded : Bool) :
    (CommandResult.ofSession (.ok succeeded) spoken).status = if succeeded then 0 else 1 := rfl

theorem status_config (e : ConfigError) :
    (CommandError.config e).status = if e = .overflow then 101 else 1 := by
  cases e <;> rfl

theorem status_load (e : LoadError) :
    (CommandError.load e).status = if e = .overflow then 101 else 1 := by
  cases e <;> rfl

end

/-! ## A class and a static class -/

/-- A manifest of two classes, the second of them static. -/
def pairText : String :=
  "manifest:\n  assembly: A\nsubjects:\n- name: U\n  reference: U\n- name: H\n  reference: H\n  is-static: true\n"

def pairSubjects : List SubjectDecl :=
  [{ name := "U", reference := "U" }, { name := "H", reference := "H", isStatic := true }]

/-- A folder with a single file, the manifest. -/
def pairTree : FileTree where
  entries := [(["w"], .folder), (["w", "a"], .file (some pairText))]
  home := ["w"]

theorem parse_pairText :
    Manifest.parse pairText = .ok { assembly := "A", subjects := pairSubjects } := by
  have htokens : Yaml.tokens pairText
      = [.blockMappingStart, .key, .scalar "manifest" .plain, .value, .blockMappingStart,
        .key, .scalar "assembly" .plain, .value, .scalar "A" .plain, .blockEnd,
        .key, .scalar "subjects" .plain, .value,
        .blockEntry, .blockMappingStart, .key, .scalar "name" .plain, .value, .scalar "U" .plain,
        .key, .scalar "reference" .plain, .value, .scalar "U" .plain, .blockEnd,
        .blockEntry, .blockMappingStart, .key, .scalar "name" .plain, .value, .scalar "H" .plain,
        .key, .scalar "reference" .plain, .value, .scalar "H" .plain,
        .key, .scalar "is-static" .plain, .value, .scalar "true" .plain, .blockEnd,
        .blockEnd] := by
    decide +kernel
  rw [Manifest.parse, Yaml.load, htokens]
  cbv

/-- What is loaded from the tree. -/
def pairLoader : Loader where
  met := ["/w/a"]
  manifests := [{ assembly := "A", subjects := pairSubjects }]
  merger := { subjects := pairSubjects }

theorem load_pairTree : pairTree.load ["a"] [] = .ok pairLoader := by
  let files := pairTree.frozen
  have hthere : Disk.canonical "a" = .ok "/w/a" := by decide +kernel
  have hread : Disk.read "a" = .ok pairText := by decide +kernel
  have hfirst : (Loader.loadFile "a").exec {} = (.ok (), pairLoader) := by
    rw [Loader.exec_loadFile]
    exact Loader.exec_loadFileWithin_new hthere (by simp) hread parse_pairText
      (Loader.exec_loadImports_nil _ _ _) (by rw [Loader.exec_register]; rfl)
  have hloaded := Loader.exec_loadAll_cons hfirst (Loader.exec_loadAll_nil _)
  rw [FileTree.load, hloaded]

theorem collisionFree_pairSubjects :
    Sha256.CollisionFree ((Run.mk {} pairSubjects).requests.map Request.message) := by
  simp only [pairSubjects, Run.requests, List.map_cons, List.map_nil, Request.message, digested,
    toUTF8_toList]
  refine Sha256.collisionFree_pair ?_
  decide +kernel

end Companion
