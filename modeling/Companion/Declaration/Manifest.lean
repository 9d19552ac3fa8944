import Companion.Declaration.Subject

/-!
# Manifests

A manifest lists subjects, or fragments of subjects, that one assembly declares, and the manifests
to be loaded before it.
-/

namespace Companion

structure Manifest where
  assembly : String
  description : Option String := none
  /-- Paths of the manifests it builds on, as it spells them. -/
  imports : List String := []
  subjects : List SubjectDecl := []
  deriving Repr

end Companion
