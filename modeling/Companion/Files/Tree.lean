import Companion.Files.Basic

/-!
# Trees of files

A finite file system as a value: what stands at each absolute path, and the working directory. A path
is followed segment by segment, as the system does, so that every segment but the last has to be a
folder. Before that a path may be refused as a whole, for a zero in it or for its length; but the
length does not count where a path is only made canonical, which goes segment by segment. Refused
requests leave the tree as it was, but that folders made on the way to a refused one stay.
-/

namespace Companion

inductive FileEntry where
  /-- A file with its text, or none if its bytes are no text. -/
  | file (text : Option String)
  | folder
  deriving DecidableEq, Repr

/-- A file system. Absolute paths are lists of segments; the root is the empty list and always a
    folder. -/
structure FileTree where
  entries : List (List String × FileEntry) := []
  /-- The working directory. -/
  home : List String := []
  deriving Repr

namespace FileTree

/-! ## Looking up -/

/-- What stands at an absolute path. -/
def entry? (t : FileTree) (path : List String) : Option FileEntry :=
  if path.isEmpty then some .folder else t.entries.lookup path

def isFolder (t : FileTree) (path : List String) : Bool :=
  t.entry? path == some .folder

/-- A segment that stays where it is. -/
def isIdle (segment : String) : Bool :=
  segment == "" || segment == "."

/-- Follows segments from an absolute path to something that is there. -/
def walk (t : FileTree) (here : List String) : List String → Except IoFailure (List String)
  | [] => if (t.entry? here).isSome then .ok here else .error .notFound
  | s :: rest =>
    if !t.isFolder here then .error .notFolder
    -- Even an idle segment needs a folder to stay in.
    else if isIdle s then t.walk here rest
    else if s == ".." then t.walk here.dropLast rest
    else if Path.isTooLongName s then .error .tooLong
    else if (t.entry? (here ++ [s])).isNone then .error .notFound
    else t.walk (here ++ [s]) rest

/-- Something stands wherever a walk ends. -/
theorem isSome_entry?_of_walk {t : FileTree} {here segments path : List String}
    (h : t.walk here segments = .ok path) : (t.entry? path).isSome := by
  induction segments generalizing here with
  | nil =>
    rw [walk] at h
    split at h
    · next hs => cases h; exact hs
    · cases h
  | cons s rest ih =>
    rw [walk] at h
    split at h
    · cases h
    · split at h
      · exact ih h
      · split at h
        · exact ih h
        · split at h
          · cases h
          · split at h
            · cases h
            · exact ih h

def start (t : FileTree) (path : String) : List String :=
  if Path.isAbsolute path then [] else t.home

/-- The absolute path that a path leads to. The empty path leads nowhere. -/
def locate (t : FileTree) (path : String) : Except IoFailure (List String) :=
  if Path.hasZero path then .error .zeroInName
  else if path.isEmpty then .error .notFound
  else t.walk (t.start path) (Path.segments path)

/-- The path, unless it is refused as a whole. -/
def accept (path : String) : Except IoFailure Unit :=
  if Path.hasZero path then .error .zeroInName
  else if Path.pathLimit < path.utf8ByteSize then .error .tooLong
  else .ok ()

def leadsSomewhere (t : FileTree) (path : String) : Bool :=
  (accept path).isOk && (t.locate path).isOk

def read (t : FileTree) (path : String) : Except IoFailure String := do
  accept path
  match t.entry? (← t.locate path) with
  | some (.file (some text)) => .ok text
  | some (.file none) => .error .notText
  | some .folder => .error .isFolder
  | none => .error .notFound

/-! ## Changing -/

/-- Puts something at an absolute path, in place of what stood there. -/
def put (t : FileTree) (path : List String) (e : FileEntry) : FileTree :=
  { t with entries := (path, e) :: t.entries.filter (·.1 != path) }

/-- Follows segments from an absolute path to a folder. -/
def walkToFolder (t : FileTree) (here segments : List String) : Except IoFailure (List String) :=
  t.walk here (segments ++ ["."])

/-- A path taken apart for making what it names: the segments in front of the last name, the name,
    and whether idle slashes follow it. There is no name at the end of a path such as `a/..`. -/
def lastName? (segments : List String) : Option (List String × String × Bool) :=
  let named := segments.reverse.dropWhile (·.isEmpty)
  match named with
  | [] => none
  | name :: above =>
    if name == "." || name == ".." then none
    else some (above.reverse, name, named.length != segments.length)

def write (t : FileTree) (path text : String) : Except IoFailure FileTree := do
  accept path
  if path.isEmpty then .error .notFound
  else
    match lastName? (Path.segments path) with
    | none =>
      let _ ← t.walkToFolder (t.start path) (Path.segments path)
      .error .isFolder
    | some (above, name, slashed) =>
      let folder ← t.walkToFolder (t.start path) above
      if slashed then .error .isFolder
      else if Path.isTooLongName name then .error .tooLong
      else if t.isFolder (folder ++ [name]) then .error .isFolder
      else .ok (t.put (folder ++ [name]) (.file (some text)))

def makeFolder (t : FileTree) (here segments : List String) : Except IoFailure FileTree := do
  match lastName? segments with
  | none =>
    let _ ← t.walkToFolder here segments
    .error .alreadyThere
  | some (above, name, _) =>
    let folder ← t.walkToFolder here above
    if Path.isTooLongName name then .error .tooLong
    else if (t.entry? (folder ++ [name])).isSome then .error .alreadyThere
    else .ok (t.put (folder ++ [name]) .folder)

def ensureFolder (t : FileTree) (here segments : List String) : Except IoFailure FileTree :=
  match t.makeFolder here segments with
  | .ok made => .ok made
  | .error e =>
    match t.walkToFolder here segments with
    | .ok _ => .ok t
    | .error _ => .error e

/-- Makes a folder. Where folders above it are missing, those are made first in the given way. -/
def ensureFolderAfter (makeAbove : FileTree → FileTree × Except IoFailure Unit)
    (here segments : List String) (t : FileTree) : FileTree × Except IoFailure Unit :=
  match t.ensureFolder here segments with
  | .ok made => (made, .ok ())
  | .error .notFound =>
    match makeAbove t with
    | (t, .error e) => (t, .error e)
    | (t, .ok ()) =>
      match t.ensureFolder here segments with
      | .ok made => (made, .ok ())
      | .error e => (t, .error e)
  | .error e => (t, .error e)

/-- Makes a folder, given by the names of its path, last one first, and the missing ones above it. -/
def makeNamed (here : List String) : List String → FileTree → FileTree × Except IoFailure Unit
  | [], t => (t, .ok ())
  | name :: above, t =>
    ensureFolderAfter (makeNamed here above) here (name :: above).reverse t

/-- Makes a folder and the missing ones above it. A path that ends in an idle segment other than a
    slash has to lead somewhere already. -/
def makeFolders (t : FileTree) (path : String) : FileTree × Except IoFailure Unit :=
  match accept path with
  | .error e => (t, .error e)
  | .ok () =>
    -- The empty path names nothing that would have to be made.
    if path.isEmpty then (t, .ok ())
    else
      let segments := Path.segments path
      let names := segments.reverse.filter (!isIdle ·)
      ensureFolderAfter (makeNamed (t.start path) names.tail) (t.start path) segments t

/-! ## The tree as a file system -/

/-- A request that leaves the tree alone. -/
def ask {α : Type} (f : FileTree → α) : StateM FileTree α :=
  fun t => (f t, t)

instance : Files (StateM FileTree) where
  canonical path := ask fun t => (t.locate path).map Path.ofSegments
  leadsSomewhere path := ask fun t => t.leadsSomewhere path
  read path := ask fun t => t.read path
  makeFolders path t :=
    let (t, outcome) := t.makeFolders path
    (outcome, t)
  write path text t :=
    match t.write path text with
    | .ok t => (.ok (), t)
    | .error e => (.error e, t)
  pathBound := ask fun t => t.entries.length + 1

end FileTree

end Companion
