import Companion.Cache

/-!
# Runs over many subjects

A run extracts and generates every subject in order and sorts the outcomes: sources, diagnostics, and
references of skipped subjects. No subject stands in another one's way.
-/

namespace Companion

/-- The outcomes of a run, each kind in the order of the subjects. -/
structure Report where
  sources : List GeneratedSource := []
  diagnostics : List Diagnostic := []
  skipped : List String := []
  deriving Repr

namespace Report

def hasErrors (r : Report) : Bool :=
  r.diagnostics.any Diagnostic.isError

def add (r : Report) : Outcome → Report
  | .source s => { r with sources := r.sources ++ [s] }
  | .diagnostic d => { r with diagnostics := r.diagnostics ++ [d] }
  | .skipped subject _ => { r with skipped := r.skipped ++ [subject] }

end Report

/-- Generates every subject, through the cache. -/
def generateSubjects (o : Options) :
    List SubjectDecl → Report → Cache → Report × Cache
  | [], r, c => (r, c)
  | s :: rest, r, c =>
    let (outcome, c) := c.getOrGenerate s.model o
    generateSubjects o rest (r.add outcome) c

end Companion
