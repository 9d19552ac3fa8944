import Companion.Command.Run

/-!
# The program

Command lines on the files of the system. Everything that is decided is decided elsewhere.
-/

namespace Companion

def IoFailure.ofError (e : IO.Error) : IoFailure :=
  match e with
  | .noFileOrDirectory .. => .notFound
  | .alreadyExists .. => .alreadyThere
  | .inappropriateType _ 21 _ => .isFolder
  | .inappropriateType _ 20 _ => .notFolder
  | .invalidArgument _ 36 _ => .tooLong
  | .userError _ => .notText
  | e => .other e.toString

/-- Does something with a path, or tells why it was refused. -/
def attempt {α : Type} (path : String) (act : IO α) : IO (Except IoFailure α) := do
  if Path.hasZero path then return .error .zeroInName
  try
    return .ok (← act)
  catch e =>
    return .error (.ofError e)

/-- The files of the system. No disk holds as many paths as the bound says. -/
instance : Files IO where
  canonical path := attempt path do return (← IO.FS.realPath path).toString
  leadsSomewhere path := do
    let there ← attempt path do (← IO.FS.realPath path).pathExists
    return there.toOption.getD false && path.utf8ByteSize ≤ Path.pathLimit
  read path := attempt path (IO.FS.readFile path)
  makeFolders path := attempt path (if path.isEmpty then pure () else IO.FS.createDirAll path)
  write path text := attempt path (IO.FS.writeFile path text)
  pathBound := return UInt64.size

end Companion

def main (words : List String) : IO UInt32 := do
  let result ← Companion.runCommandLine words
  IO.print result.out
  IO.eprint result.err
  return result.status.toUInt32
