/-!
# Faults

Why a document is not read. Nearly always it is no document, or not one of the kind that was asked
for. But the text of a scalar is gathered in a buffer, and a text that does not fit is a fault of its
own: nothing is read behind it, and no reader may go on.
-/

namespace Companion.Yaml

inductive Fault where
  /-- The text is not what was asked for. -/
  | malformed
  /-- A gap inside a scalar is longer than the room that is left for it. -/
  | overflow
  deriving DecidableEq, Repr

def Fault.overflowMessage : String := "String join would overflow memory bounds"

/-- What a step of reading does not recognise is malformed. -/
instance : MonadLift Option (Except Fault) where
  monadLift
    | some a => .ok a
    | none => .error .malformed

end Companion.Yaml
