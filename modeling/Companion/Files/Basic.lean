import Companion.Files.Path

/-!
# Access to files

What a program may ask of the system about files, and the ways in which the system refuses. Programs
are written over this interface alone, so that they run on a disk as well as on a tree of files that
is a plain value.
-/

namespace Companion

/-- Why the system refuses a request. -/
inductive IoFailure where
  | notFound
  | isFolder
  | notFolder
  | alreadyThere
  /-- A path, or a name in it, has too many bytes. -/
  | tooLong
  /-- A path has a zero in it, where the system would think that it ends. -/
  | zeroInName
  /-- The bytes of the file are no text. -/
  | notText
  /-- Any other refusal, in the system's words. -/
  | other (words : String)
  deriving DecidableEq, Repr

def IoFailure.message : IoFailure → String
  | .notFound => "No such file or directory (os error 2)"
  | .isFolder => "Is a directory (os error 21)"
  | .notFolder => "Not a directory (os error 20)"
  | .alreadyThere => "File exists (os error 17)"
  | .tooLong => "File name too long (os error 36)"
  | .zeroInName => "file name contained an unexpected NUL byte"
  | .notText => "stream did not contain valid UTF-8"
  | .other words => words

/-- Access to files by their paths. -/
class Files (m : Type → Type) where
  /-- The one absolute path of what a path leads to: no links and no idle segments. -/
  canonical : String → m (Except IoFailure String)
  /-- The path leads to something. -/
  leadsSomewhere : String → m Bool
  /-- The text of a file. -/
  read : String → m (Except IoFailure String)
  /-- Makes a folder and those above it that are missing. -/
  makeFolders : String → m (Except IoFailure Unit)
  /-- Makes a file hold a text and nothing else. -/
  write : String → String → m (Except IoFailure Unit)
  /-- At least as many as there are canonical paths. -/
  pathBound : m Nat

end Companion
