/-!
# Paths

A path is a text of segments between slashes. A relative path starts at the working directory, one
with a slash in front at the root. Joining and taking apart go by the text alone; what a path leads to
is for the system to say.
-/

namespace Companion.Path

def isAbsolute (path : String) : Bool :=
  path.toList.head? == some '/'

/-- How many bytes a name may have. -/
def nameLimit : Nat := 255

/-- How many bytes a path may have as a whole. -/
def pathLimit : Nat := 4095

/-- The segment is no name that anything can have. -/
def isTooLongName (segment : String) : Bool :=
  nameLimit < segment.utf8ByteSize

def hasZero (path : String) : Bool :=
  path.toList.contains '\x00'

/-- A path inside a folder. An absolute path stands for itself. -/
def join (folder path : String) : String :=
  if isAbsolute path then path
  else
    match folder.toList.getLast? with
    | none | some '/' => folder ++ path
    | some _ => folder ++ "/" ++ path

/-- The stretches of characters between slashes. -/
def splitSlashes : List Char → List (List Char)
  | [] => [[]]
  | c :: rest =>
    if c = '/' then [] :: splitSlashes rest
    else
      match splitSlashes rest with
      | [] => [[c]]
      | s :: more => (c :: s) :: more

/-- The segments of a path. The first segment of an absolute path is empty. -/
def segments (path : String) : List String :=
  (splitSlashes path.toList).map String.ofList

/-- The absolute path of some segments below the root. -/
def ofSegments (segments : List String) : String :=
  "/" ++ "/".intercalate segments

/-- The folder that an absolute path without idle segments lies in, if it is not the root. -/
def parent? (path : String) : Option String :=
  match (segments path).dropLast with
  | [] => none
  | [_] => if path == "/" then none else some "/"
  | above => some ("/".intercalate above)

/-! ## Facts about segments -/

theorem splitSlashes_ne_nil (cs : List Char) : splitSlashes cs ≠ [] := by
  cases cs with
  | nil => simp [splitSlashes]
  | cons c rest =>
    rw [splitSlashes]
    split
    · simp
    · split <;> simp

theorem splitSlashes_of_not_mem {cs : List Char} (h : '/' ∉ cs) : splitSlashes cs = [cs] := by
  induction cs with
  | nil => rfl
  | cons c rest ih =>
    simp only [List.mem_cons, not_or] at h
    rw [splitSlashes, if_neg (Ne.symm h.1), ih h.2]

theorem splitSlashes_append (cs more : List Char) :
    splitSlashes (cs ++ '/' :: more) = splitSlashes cs ++ splitSlashes more := by
  induction cs with
  | nil => simp [splitSlashes]
  | cons c rest ih =>
    obtain ⟨s, tail, hs⟩ := List.exists_cons_of_ne_nil (splitSlashes_ne_nil rest)
    simp only [List.cons_append, splitSlashes, ih, hs]
    split <;> rfl

end Companion.Path
