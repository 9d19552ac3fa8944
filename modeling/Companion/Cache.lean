import Companion.Generate
import Companion.Model.Encode
import Companion.Data.Json
import Companion.Digest.Sha256

/-!
# Remembered outcomes

Generation depends on the model and the options alone, so an outcome may be remembered under a
fingerprint of the two. The fingerprint is the digest of their canonical text.
-/

namespace Companion

def canonicalText (m : SubjectModel) (o : Options) : String :=
  Json.compact (.list [m.encode, o.encode])

def fingerprint (m : SubjectModel) (o : Options) : String :=
  Sha256.hex (canonicalText m o)

/-- Outcomes by fingerprint, and how often one was found and not found. -/
structure Cache where
  entries : List (String × Outcome) := []
  hits : Nat := 0
  misses : Nat := 0
  deriving Repr

namespace Cache

def size (c : Cache) : Nat := c.entries.length

/-- The remembered outcome, or a fresh one that is remembered from now on. -/
def getOrGenerate (c : Cache) (m : SubjectModel) (o : Options) : Outcome × Cache :=
  let key := fingerprint m o
  match c.entries.lookup key with
  | some outcome => (outcome, { c with hits := c.hits + 1 })
  | none =>
    let outcome := m.generate o
    (outcome, { c with entries := c.entries ++ [(key, outcome)], misses := c.misses + 1 })

end Cache

end Companion
