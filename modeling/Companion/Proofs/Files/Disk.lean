import Companion.Files.Basic

/-!
# A file system that nobody changes

Access to files without a state: every answer depends on the request alone. What is proved about a
program over such a file system is proved about it wherever nothing else writes meanwhile.

**The laws ask for little.** They say nothing of what may be refused, for a path may be too long
where another one that leads to the same is not.
-/

namespace Companion

namespace Disk

variable [Files Id]

def canonical (path : String) : Except IoFailure String :=
  Id.run (Files.canonical path)

def leadsSomewhere (path : String) : Bool :=
  Id.run (Files.leadsSomewhere path)

def read (path : String) : Except IoFailure String :=
  Id.run (Files.read path)

def pathBound : Nat :=
  Id.run Files.pathBound

end Disk

/-- What a program may rely on: a canonical path leads to itself, and paths that lead to the same
    read the same. -/
class LawfulFiles [Files Id] : Prop where
  canonical_unique : ∀ {path file again : String},
    Disk.canonical path = .ok file → Disk.canonical file = .ok again → again = file
  read_unique : ∀ {path path' file text text' : String},
    Disk.canonical path = .ok file → Disk.canonical path' = .ok file →
      Disk.read path = .ok text → Disk.read path' = .ok text' → text = text'

/-- There are only so many canonical paths, and the bound that a program is told is right. -/
class BoundedFiles [Files Id] : Prop where
  bounded : ∃ files : List String, files.length ≤ Disk.pathBound
    ∧ ∀ path file, Disk.canonical path = .ok file → file ∈ files

end Companion
