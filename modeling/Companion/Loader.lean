import Companion.Declaration.Document
import Companion.Files.Basic
import Companion.Merge

/-!
# Loading manifests

A loader reads manifests with all that they import and merges their subjects. A manifest is registered
behind its imports. A file is marked as met before it is read, so that files that import each other
are each read once; it stays marked when reading it fails, and what had been merged stays merged.
-/

namespace Companion

/-! ## Errors -/

inductive LoadError where
  | io (path : String) (cause : IoFailure)
  /-- The text is no manifest. The message ends where the words of the reader about it would follow. -/
  | malformed (origin : String)
  /-- The text has a scalar that does not fit. -/
  | overflow
  /-- An import that leads nowhere. A manifest that is in no file has an empty path. -/
  | importNotFound (path importer : String)
  | mismatch (mismatch : FragmentMismatch)
  /-- Imports nest deeper than there are files. -/
  | unending (path : String)
  deriving DecidableEq, Repr

namespace LoadError

def message : LoadError → String
  | .io path cause => "failed to read '" ++ path ++ "': " ++ cause.message
  | .malformed origin => "failed to parse '" ++ origin ++ "'"
  | .overflow => Yaml.Fault.overflowMessage
  | .importNotFound path importer =>
    "import '" ++ path ++ "' not found relative to '" ++ importer ++ "' or in include directories"
  | .mismatch e => e.message
  | .unending path => "imports of '" ++ path ++ "' do not end"

def cause? : LoadError → Option IoFailure
  | .io _ cause => some cause
  | _ => none

/-- The error that a fault in a text from somewhere is. -/
def ofFault (origin : String) : Yaml.Fault → LoadError
  | .malformed => .malformed origin
  | .overflow => .overflow

end LoadError

/-! ## Loaders -/

structure Loader where
  /-- Folders in which imports are looked for besides the importer's own. -/
  includeDirs : List String := []
  /-- Canonical paths of the files that were met. -/
  met : List String := []
  /-- The registered manifests, in that order. -/
  manifests : List Manifest := []
  /-- The subjects of the registered manifests. -/
  merger : Merger := {}
  deriving Repr

/-- Steps of loading. What a failed step did to the loader is kept. -/
abbrev Loading (m : Type → Type) := ExceptT LoadError (StateT Loader m)

namespace Loader

def subjects (l : Loader) : List SubjectDecl := l.merger.subjects

/-- The assemblies of the registered manifests, each once and in order. -/
def assemblies (l : Loader) : List String :=
  ((l.manifests.map (·.assembly)).mergeSort (fun a b => decide (a ≤ b))).eraseReps

/-- Merges a subject with the others, if it fits. -/
def mergeSubject {m : Type → Type} [Monad m] (s : SubjectDecl) : Loading m Unit := do
  let (answer, merger) := (← get).merger.offer s
  modify fun l => { l with merger }
  match answer with
  | .ok () => return
  | .error e => throw (.mismatch e)

/-- Merges the subjects of a manifest, up to the first that does not fit, and then registers it. -/
def register {m : Type → Type} [Monad m] (manifest : Manifest) : Loading m Unit := do
  manifest.subjects.forM mergeSubject
  -- What was merged before a subject that does not fit stays merged.
  modify fun l => { l with manifests := l.manifests ++ [manifest] }

def mark (l : Loader) (file : String) : Loader :=
  { l with met := l.met ++ [file] }

/-- Where an import may lead: first inside the importer's folder, then inside the include folders. -/
def candidates (l : Loader) (folder : Option String) (path : String) : List String :=
  (folder.toList ++ l.includeDirs).map (Path.join · path)

section

variable {m : Type → Type} [Monad m] [Files m]

/-- The answer to a request about a path, or its refusal as an error. -/
def request {α : Type} (path : String) (answer : m (Except IoFailure α)) : Loading m α := do
  match ← (answer : m _) with
  | .ok a => return a
  | .error cause => throw (.io path cause)

def firstThere : List String → m (Option String)
  | [] => pure none
  | path :: rest => do
    if ← Files.leadsSomewhere path then return some path else firstThere rest

/-- The file that an import of a file, or of a manifest in no file, means. -/
def resolveImport (importer : Option String) (path : String) : Loading m String := do
  let paths := (← get).candidates (importer.bind Path.parent?) path
  match ← (firstThere paths : m _) with
  | some found => request found (Files.canonical found)
  | none => throw (.importNotFound path (importer.getD ""))

def parse (origin text : String) : Loading m Manifest :=
  match Manifest.parse text with
  | .ok manifest => return manifest
  | .error f => throw (.ofFault origin f)

/-- Loads a file and its imports, nested at most so deep. A file that was met before is left alone. -/
def loadFileWithin : Nat → String → Loading m Unit
  | 0, path => throw (.unending path)
  | depth + 1, path => do
    let file ← request path (Files.canonical path)
    if file ∈ (← get).met then return
    -- Marked in front of its imports, so that imports that lead round in a circle end here.
    modify fun l => l.mark file
    let manifest ← parse path (← request path (Files.read path))
    manifest.imports.forM fun i => do
      loadFileWithin depth (← resolveImport (some file) i)
    register manifest

/-- How deep imports may nest: every file on the way is another one, and the last one may be one of
    them again. -/
def depthBound : Loading m Nat := do
  return (← (Files.pathBound : m Nat)) + 1

def loadFile (path : String) : Loading m Unit := do
  loadFileWithin (← depthBound) path

/-- Loads a manifest that is in no file. Its imports are looked for in the include folders. -/
def loadText (origin text : String) : Loading m Unit := do
  let manifest ← parse origin text
  manifest.imports.forM fun i => do
    loadFile (← resolveImport none i)
  register manifest

end

end Loader

end Companion
