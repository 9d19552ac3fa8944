import Companion.Loader
import Companion.Proofs.Files.Disk

/-!
# Loading as a function

Over a file system that nobody changes meanwhile, a step of loading is a function from what was
loaded before to an outcome and what is loaded then (`Loading.exec`). This file says what that
function is for every step of a loader, so that nothing about loaders has to open a step again.

**A step is described in full, not only where it succeeds.** What a failed step leaves behind is
part of what a loader does: a file stays marked, and what was merged stays merged.

Loading is made of few steps, so a property of steps that composes is proved of those few and holds
of whole loads up to the recursion through imports (`Compositional`).
-/

namespace Companion

/-! ## Steps one after another -/

namespace Loading

/-- The outcome of a step, and what is loaded then. -/
def exec {α : Type} (x : Loading Id α) (l : Loader) : Except LoadError α × Loader :=
  Id.run (x.run.run l)

section

variable {α β : Type} (l : Loader)

@[simp] theorem exec_pure (a : α) : (pure a : Loading Id α).exec l = (.ok a, l) := rfl

@[simp] theorem exec_get : (get : Loading Id Loader).exec l = (.ok l, l) := rfl

@[simp] theorem exec_modify (f : Loader → Loader) :
    (modify f : Loading Id Unit).exec l = (.ok (), f l) := rfl

theorem exec_bind (x : Loading Id α) (f : α → Loading Id β) :
    (x >>= f).exec l = match x.exec l with
      | (.ok a, l) => (f a).exec l
      | (.error e, l) => (.error e, l) := by
  unfold exec ExceptT.run StateT.run Id.run
  simp only [bind, ExceptT.bind, ExceptT.mk, StateT.bind, ExceptT.bindCont]
  cases x l with
  | mk outcome l => cases outcome <;> rfl

variable {l}

/-- Two steps succeed if the first does and the second does from there. -/
theorem exec_bind_eq_ok {x : Loading Id α} {f : α → Loading Id β} {b : β} {l' : Loader} :
    (x >>= f).exec l = (.ok b, l')
      ↔ ∃ a between, x.exec l = (.ok a, between) ∧ (f a).exec between = (.ok b, l') := by
  rw [exec_bind]
  cases x.exec l with
  | mk outcome between =>
    cases outcome with
    | error e => simp
    | ok a =>
      constructor
      · intro h
        exact ⟨a, between, rfl, h⟩
      · rintro ⟨a', between', hx, h⟩
        cases hx
        exact h

end

end Loading

/-! ## Single steps -/

namespace Merger

/-- Takes in fragments, up to the first that is refused. -/
def addAll (m : Merger) : List SubjectDecl → Except FragmentMismatch Unit × Merger
  | [] => (.ok (), m)
  | s :: rest =>
    match m.offer s with
    | (.error e, next) => (.error e, next)
    | (.ok (), next) => next.addAll rest

/-- The refused one leaves the merger as it was. -/
theorem addAll_cons (m : Merger) (s : SubjectDecl) (rest : List SubjectDecl) :
    m.addAll (s :: rest) = match m.add s with
      | .error e => (.error e, m)
      | .ok next => next.addAll rest := by
  rw [addAll, offer_eq]
  cases m.add s with
  | error e => rfl
  | ok next => rfl

end Merger

namespace Loader

open Loading

/-- Loads files one after another, up to the first that fails. -/
def loadAll {m : Type → Type} [Monad m] [Files m] (roots : List String) : Loading m Unit :=
  roots.forM loadFile

theorem mapError_eq_ok {ε α : Type} {f : ε → LoadError} {x : Except ε α} {a : α} :
    x.mapError f = .ok a ↔ x = .ok a := by
  cases x with
  | error e => exact ⟨(nomatch ·), (nomatch ·)⟩
  | ok b =>
    constructor
    · rintro ⟨⟩
      rfl
    · rintro ⟨⟩
      rfl

theorem exec_mergeSubject (s : SubjectDecl) (l : Loader) :
    (mergeSubject s : Loading Id Unit).exec l
      = ((l.merger.offer s).1.mapError .mismatch, { l with merger := (l.merger.offer s).2 }) := by
  rw [mergeSubject, exec_bind, exec_get]
  cases hoffer : l.merger.offer s with
  | mk answer merger =>
    simp only [hoffer, exec_bind, exec_modify]
    cases answer <;> rfl

theorem exec_register (manifest : Manifest) (l : Loader) :
    (register manifest : Loading Id Unit).exec l
      = match l.merger.addAll manifest.subjects with
        | (.ok (), merger) =>
          (.ok (), { l with merger, manifests := l.manifests ++ [manifest] })
        | (.error e, merger) => (.error (.mismatch e), { l with merger }) := by
  unfold register
  generalize manifest.subjects = subjects
  induction subjects generalizing l with
  | nil => rfl
  | cons s rest ih =>
    rw [List.forM_eq_forM, List.forM_cons, bind_assoc, exec_bind, exec_mergeSubject, Merger.addAll]
    cases l.merger.offer s with
    | mk answer merger =>
      cases answer with
      | error e => rfl
      | ok _ =>
        -- The others are merged into what the first subject left.
        exact ih { l with merger }

/-- A manifest that is registered comes last, behind what was registered before. -/
theorem register_eq_ok {manifest : Manifest} {l l' : Loader}
    (h : (register manifest : Loading Id Unit).exec l = (.ok (), l')) :
    ∃ merger, l.merger.addAll manifest.subjects = (.ok (), merger)
      ∧ l' = { l with merger, manifests := l.manifests ++ [manifest] } := by
  rw [exec_register] at h
  cases hadd : l.merger.addAll manifest.subjects with
  | mk outcome merger =>
    rw [hadd] at h
    cases outcome with
    | error e => exact absurd (congrArg Prod.fst h) (by simp)
    | ok _ => exact ⟨merger, rfl, (congrArg Prod.snd h).symm⟩

theorem exec_parse (origin text : String) (l : Loader) :
    (parse origin text : Loading Id Manifest).exec l
      = ((Manifest.parse text).mapError (LoadError.ofFault origin), l) := by
  unfold parse
  cases Manifest.parse text <;> rfl

theorem exec_request {α : Type} (path : String) (answer : Id (Except IoFailure α)) (l : Loader) :
    (request path answer).exec l = (answer.run.mapError (LoadError.io path), l) := by
  change Except IoFailure α at answer
  cases answer <;> rfl

/-- What a call came to, and the loader that it left. -/
abbrev CallResult := Except LoadError Unit × Loader

/-- A manifest is registered behind its imports, if they were loaded. -/
def registered (manifest : Manifest) : CallResult → CallResult
  | (.ok (), l) => (register manifest).exec l
  | (.error e, l) => (.error e, l)

theorem exec_registered (imports : Loading Id Unit) (manifest : Manifest) (l : Loader) :
    (do imports; register manifest).exec l = registered manifest (imports.exec l) := by
  rw [exec_bind]
  rcases imports.exec l with ⟨_ | _, _⟩ <;> rfl

section

variable [Files Id]

theorem exec_canonical (path : String) (l : Loader) :
    (request path (Files.canonical path)).exec l
      = ((Disk.canonical path).mapError (LoadError.io path), l) :=
  exec_request path _ l

theorem exec_read (path : String) (l : Loader) :
    (request path (Files.read path)).exec l
      = ((Disk.read path).mapError (LoadError.io path), l) :=
  exec_request path _ l

theorem firstThere_eq_find? (paths : List String) :
    Id.run (firstThere paths) = paths.find? Disk.leadsSomewhere := by
  induction paths with
  | nil => rfl
  | cons path rest ih =>
    rw [List.find?_cons, ← ih]
    show (if Disk.leadsSomewhere path = true then some path else Id.run (firstThere rest)) = _
    cases Disk.leadsSomewhere path <;> rfl

/-- The file that an import means, if the include folders are these. -/
def destination (includeDirs : List String) (importer : Option String) (path : String) :
    Except LoadError String :=
  match (({ includeDirs } : Loader).candidates (importer.bind Path.parent?) path).find?
      Disk.leadsSomewhere with
  | some found => (Disk.canonical found).mapError (LoadError.io found)
  | none => .error (.importNotFound path (importer.getD ""))

theorem exec_resolveImport (importer : Option String) (path : String) (l : Loader) :
    (resolveImport importer path).exec l = (destination l.includeDirs importer path, l) := by
  rw [resolveImport, exec_bind, exec_get]
  show ((match Id.run (firstThere (l.candidates (importer.bind Path.parent?) path)) with
    | some found => request found (Files.canonical found)
    | none => throw (.importNotFound path (importer.getD "")) : Loading Id String)).exec l = _
  rw [firstThere_eq_find?]
  show _ = ((match (l.candidates (importer.bind Path.parent?) path).find? Disk.leadsSomewhere with
    | some found => (Disk.canonical found).mapError (LoadError.io found)
    | none => .error (.importNotFound path (importer.getD ""))), l)
  cases (l.candidates (importer.bind Path.parent?) path).find? Disk.leadsSomewhere with
  | none => rfl
  | some found => exact exec_canonical found l

theorem canonical_of_destination {includeDirs : List String} {importer : Option String}
    {path file : String} (h : destination includeDirs importer path = .ok file) :
    ∃ found, Disk.canonical found = .ok file := by
  unfold destination at h
  split at h
  · next found _ =>
    exact ⟨found, mapError_eq_ok.mp h⟩
  · exact absurd h (by simp)

/-! ## A file with its imports -/

/-- Loads the imports of a file, nested at most so deep. -/
def loadImports (depth : Nat) (importer : String) (imports : List String) : Loading Id Unit :=
  imports.forM fun i => do loadFileWithin depth (← resolveImport (some importer) i)

/-- Loads a file that was not met before. -/
def loadNew (depth : Nat) (path file : String) : Loading Id Unit := do
  let manifest ← parse path (← request path (Files.read path))
  loadImports depth file manifest.imports
  register manifest

theorem exec_loadFileWithin_zero (path : String) (l : Loader) :
    (loadFileWithin 0 path : Loading Id Unit).exec l = (.error (.unending path), l) := rfl

theorem exec_loadFileWithin_succ (depth : Nat) (path : String) (l : Loader) :
    (loadFileWithin (depth + 1) path : Loading Id Unit).exec l
      = match Disk.canonical path with
        | .error cause => (.error (.io path cause), l)
        | .ok file =>
          if file ∈ l.met then (.ok (), l) else (loadNew depth path file).exec (l.mark file) := by
  rw [loadFileWithin, exec_bind, exec_canonical]
  cases Disk.canonical path with
  | error cause => rfl
  | ok file =>
    show ((get : Loading Id Loader) >>= _).exec l = if file ∈ l.met then _ else _
    rw [exec_bind, exec_get]
    by_cases h : file ∈ l.met
    · simp [h]
    · simp only [h, if_false]
      rfl

theorem loadNew_eq_ok {depth : Nat} {path file : String} {l l' : Loader}
    (h : (loadNew depth path file).exec l = (.ok (), l')) :
    ∃ text manifest between,
      Disk.read path = .ok text ∧ Manifest.parse text = .ok manifest
        ∧ (loadImports depth file manifest.imports).exec l = (.ok (), between)
        ∧ (register manifest : Loading Id Unit).exec between = (.ok (), l') := by
  obtain ⟨text, _, htext, h⟩ := exec_bind_eq_ok.mp h
  rw [exec_read] at htext
  obtain ⟨hread, rfl⟩ := Prod.mk.inj htext
  obtain ⟨manifest, _, hmanifest, h⟩ := exec_bind_eq_ok.mp h
  rw [exec_parse] at hmanifest
  obtain ⟨hparse, rfl⟩ := Prod.mk.inj hmanifest
  obtain ⟨_, between, himports, h⟩ := exec_bind_eq_ok.mp h
  exact ⟨text, manifest, between, mapError_eq_ok.mp hread, mapError_eq_ok.mp hparse,
    himports, h⟩

theorem loadImports_cons_eq_ok {depth : Nat} {importer path : String} {rest : List String}
    {l l' : Loader} (h : (loadImports depth importer (path :: rest)).exec l = (.ok (), l')) :
    ∃ file between,
      destination l.includeDirs (some importer) path = .ok file
        ∧ (loadFileWithin depth file).exec l = (.ok (), between)
        ∧ (loadImports depth importer rest).exec between = (.ok (), l') := by
  rw [loadImports, List.forM_eq_forM, List.forM_cons, bind_assoc] at h
  obtain ⟨file, _, hfile, h⟩ := exec_bind_eq_ok.mp h
  rw [exec_resolveImport] at hfile
  obtain ⟨hdestination, rfl⟩ := Prod.mk.inj hfile
  obtain ⟨_, between, hload, hrest⟩ := exec_bind_eq_ok.mp h
  exact ⟨file, between, hdestination, hload, hrest⟩

theorem exec_loadFile (path : String) (l : Loader) :
    (loadFile path : Loading Id Unit).exec l
      = (loadFileWithin (Disk.pathBound + 1) path).exec l := rfl

/-! ## A manifest with its imports -/

/-- The manifest that is read by a path. -/
def manifestAt (path : String) : Except LoadError Manifest := do
  let text ← (Disk.read path).mapError (.io path)
  (Manifest.parse text).mapError (.ofFault path)

theorem manifestAt_eq_ok {path text : String} {manifest : Manifest}
    (hread : Disk.read path = .ok text) (hparse : Manifest.parse text = .ok manifest) :
    manifestAt path = .ok manifest := by
  rw [manifestAt, mapError_eq_ok.mpr hread]
  exact mapError_eq_ok.mpr hparse

theorem exec_loadNew_eq (depth : Nat) (path file : String) (l : Loader) :
    (loadNew depth path file).exec l
      = match manifestAt path with
        | .error e => (.error e, l)
        | .ok manifest =>
          registered manifest ((loadImports depth file manifest.imports).exec l) := by
  rw [loadNew, exec_bind, exec_read, manifestAt]
  cases Disk.read path with
  | error cause => rfl
  | ok text =>
    show (do let manifest ← parse path text; _ : Loading Id Unit).exec l
      = match (Manifest.parse text).mapError (.ofFault path) with
        | .error e => (.error e, l)
        | .ok manifest => registered manifest ((loadImports depth file manifest.imports).exec l)
    rw [exec_bind, exec_parse]
    cases Manifest.parse text with
    | error f => rfl
    | ok manifest => exact exec_registered _ manifest l

/-- Loads what imports lead to, one after another. -/
def loadEach (load : String → Loading Id Unit) (importer : Option String)
    (imports : List String) : Loading Id Unit :=
  imports.forM fun i => do load (← resolveImport importer i)

theorem exec_loadText (origin text : String) (l : Loader) :
    (loadText origin text : Loading Id Unit).exec l
      = match Manifest.parse text with
        | .error f => (.error (.ofFault origin f), l)
        | .ok manifest =>
          registered manifest ((loadEach loadFile none manifest.imports).exec l) := by
  rw [loadText, exec_bind, exec_parse]
  cases Manifest.parse text with
  | error f => rfl
  | ok manifest => exact exec_registered _ manifest l

/-! ## Runs that succeed, one call after another -/

section

variable {depth : Nat} {path file : String} {l between l' : Loader}

theorem exec_loadFileWithin_met (hfile : Disk.canonical path = .ok file) (hmet : file ∈ l.met) :
    (loadFileWithin (depth + 1) path : Loading Id Unit).exec l = (.ok (), l) := by
  rw [exec_loadFileWithin_succ, hfile]
  exact if_pos hmet

theorem exec_loadFile_met (hfile : Disk.canonical path = .ok file) (hmet : file ∈ l.met) :
    (loadFile path : Loading Id Unit).exec l = (.ok (), l) := by
  rw [exec_loadFile]
  exact exec_loadFileWithin_met hfile hmet

theorem exec_loadFileWithin_new {text : String} {manifest : Manifest}
    (hfile : Disk.canonical path = .ok file) (hnew : file ∉ l.met)
    (hread : Disk.read path = .ok text) (hparse : Manifest.parse text = .ok manifest)
    (himports : (loadImports depth file manifest.imports).exec (l.mark file) = (.ok (), between))
    (hregister : (register manifest : Loading Id Unit).exec between = (.ok (), l')) :
    (loadFileWithin (depth + 1) path : Loading Id Unit).exec l = (.ok (), l') := by
  rw [exec_loadFileWithin_succ, hfile]
  refine (if_neg hnew).trans ?_
  rw [exec_loadNew_eq, manifestAt_eq_ok hread hparse, ← hregister]
  exact congrArg (registered manifest) himports

theorem exec_loadImports_nil (depth : Nat) (importer : String) (l : Loader) :
    (loadImports depth importer []).exec l = (.ok (), l) := rfl

theorem exec_loadImports_cons {importer : String} {rest : List String}
    (hfile : destination l.includeDirs (some importer) path = .ok file)
    (hload : (loadFileWithin depth file).exec l = (.ok (), between))
    (hrest : (loadImports depth importer rest).exec between = (.ok (), l')) :
    (loadImports depth importer (path :: rest)).exec l = (.ok (), l') := by
  rw [loadImports, List.forM_eq_forM, List.forM_cons, bind_assoc]
  refine exec_bind_eq_ok.mpr ⟨file, l, ?_, exec_bind_eq_ok.mpr ⟨(), between, hload, hrest⟩⟩
  rw [exec_resolveImport, hfile]

theorem exec_loadAll_nil (l : Loader) : (loadAll [] : Loading Id Unit).exec l = (.ok (), l) := rfl

theorem exec_loadAll_cons {rest : List String}
    (hload : (loadFile path : Loading Id Unit).exec l = (.ok (), between))
    (hrest : (loadAll rest : Loading Id Unit).exec between = (.ok (), l')) :
    (loadAll (path :: rest) : Loading Id Unit).exec l = (.ok (), l') :=
  exec_bind_eq_ok.mpr ⟨(), between, hload, hrest⟩

end

end

/-! ## Properties of steps -/

/-- A property that a step has as soon as the steps that it is made of have it. Steps that change
    nothing have it, and so does registering what was read. -/
structure Compositional (P : {α : Type} → Loading Id α → Prop) : Prop where
  still : ∀ {α : Type} {x : Loading Id α}, (∀ l, (x.exec l).2 = l) → P x
  register : ∀ {text : String} {manifest : Manifest},
    Manifest.parse text = .ok manifest → P (register manifest : Loading Id Unit)
  bind : ∀ {α β : Type} {x : Loading Id α} {f : α → Loading Id β},
    P x → (∀ a l l', x.exec l = (.ok a, l') → P (f a)) → P (x >>= f)

section

variable {P : {α : Type} → Loading Id α → Prop}

theorem Compositional.forM (h : Compositional P) {α : Type} {f : α → Loading Id Unit}
    (hf : ∀ a, P (f a)) (as : List α) : P (as.forM f) := by
  induction as with
  | nil => exact h.still fun _ => rfl
  | cons a rest ih => exact h.bind (hf a) fun _ _ _ _ => ih

/-- A manifest is read, something is done for its imports, and then it is registered. -/
theorem Compositional.registering (h : Compositional P) {imports : Manifest → Loading Id Unit}
    (himports : ∀ manifest, P (imports manifest)) (origin text : String) :
    P (do
      let manifest ← parse origin text
      imports manifest
      Loader.register manifest) := by
  refine h.bind (h.still fun l => ?_) fun manifest l l' hexec => ?_
  · rw [exec_parse]
  · rw [exec_parse] at hexec
    have hparse := mapError_eq_ok.mp (congrArg Prod.fst hexec)
    exact h.bind (himports manifest) fun _ _ _ _ => h.register hparse

variable [Files Id]

theorem Compositional.resolving (h : Compositional P) {load : String → Loading Id Unit}
    (hload : ∀ file, P (load file)) (importer : Option String) (path : String) :
    P (do load (← resolveImport importer path)) :=
  h.bind (h.still fun l => by rw [exec_resolveImport]) fun file _ _ _ => hload file

theorem Compositional.loadNew (h : Compositional P) {depth : Nat}
    (hload : ∀ path, P (loadFileWithin depth path : Loading Id Unit)) (path file : String) :
    P (loadNew depth path file) := by
  refine h.bind (h.still fun l => ?_) fun text _ _ _ => ?_
  · rw [exec_read]
  · refine h.registering (fun manifest => ?_) path text
    exact h.forM (h.resolving hload (some file)) manifest.imports

theorem Compositional.loadText (h : Compositional P)
    (hload : ∀ path, P (loadFile path : Loading Id Unit)) (origin text : String) :
    P (loadText origin text : Loading Id Unit) := by
  refine h.registering (fun manifest => ?_) origin text
  exact h.forM (h.resolving hload none) manifest.imports

end

end Loader

end Companion
