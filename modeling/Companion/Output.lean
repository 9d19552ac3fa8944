import Companion.Files.Basic
import Companion.Generate

/-!
# Writing sources

Generated sources are written into one folder, each to the file that its hint name says. Two sources
of one hint name would end up in one file, which is found out before anything is made or written.
-/

namespace Companion

inductive OutputError where
  | makeFolder (path : String) (cause : IoFailure)
  | duplicate (hintName first second : String)
  | write (path : String) (cause : IoFailure)
  deriving DecidableEq, Repr

namespace OutputError

def message : OutputError → String
  | .makeFolder path cause =>
    "failed to create output directory '" ++ path ++ "': " ++ cause.message
  | .duplicate hintName first second =>
    "subjects '" ++ first ++ "' and '" ++ second ++ "' both generate '" ++ hintName ++ "'"
  | .write path cause => "failed to write '" ++ path ++ "': " ++ cause.message

def cause? : OutputError → Option IoFailure
  | .makeFolder _ cause | .write _ cause => some cause
  | .duplicate .. => none

end OutputError

/-- The first source whose hint name was seen before, behind the one that it was seen on. -/
def duplicateHint? (seen : List GeneratedSource) :
    List GeneratedSource → Option (GeneratedSource × GeneratedSource)
  | [] => none
  | s :: rest =>
    match seen.find? (·.hintName == s.hintName) with
    | some first => some (first, s)
    | none => duplicateHint? (seen ++ [s]) rest

abbrev Writing (m : Type → Type) := ExceptT OutputError m

section

variable {m : Type → Type} [Monad m] [Files m]

/-- Writes one source and gives the path that it was written to. -/
def writeSource (folder : String) (s : GeneratedSource) : Writing m String := do
  let path := Path.join folder s.hintName
  match ← (Files.write path s.text : m _) with
  | .ok () => return path
  | .error cause => throw (.write path cause)

/-- Writes sources into a folder, which is made if it is missing, and gives their paths. -/
def writeSources (folder : String) (sources : List GeneratedSource) : Writing m (List String) := do
  -- A clash is found before the folder is made.
  match duplicateHint? [] sources with
  | some (first, second) => throw (.duplicate second.hintName first.subject second.subject)
  | none =>
    match ← (Files.makeFolders folder : m _) with
    | .ok () => sources.mapM (writeSource folder)
    | .error cause => throw (.makeFolder folder cause)

end

end Companion
