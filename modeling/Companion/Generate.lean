import Companion.Model.Extract
import Companion.Source.Proxy
import Companion.Diagnostic
import Companion.Options

/-!
# Generation

What becomes of one described subject: a source text, a diagnostic if the subject is static, or
nothing if it is neither a class nor a record.
-/

namespace Companion

/-- A source text with the name of the file it belongs in. -/
structure GeneratedSource where
  /-- The reference of the subject it was written for. -/
  subject : String
  hintName : String
  text : String
  deriving DecidableEq, Repr

/-- What became of a subject. -/
inductive Outcome where
  | source (source : GeneratedSource)
  | diagnostic (diagnostic : Diagnostic)
  | skipped (subject : String) (kind : DeclarationKind)
  deriving DecidableEq, Repr

def SubjectModel.proxy (m : SubjectModel) (o : Options) : Source.Proxy where
  name := m.subject.name ++ o.proxySuffix
  namespaceName := m.subject.namespaceName
  targetType := m.subject.reference
  subjectDisplay := m.subject.displayReference
  modifiers := m.subject.modifiers
  genericParameters := m.subject.genericParameters
  properties := m.properties
  methods := m.methods
  implicitConversion := o.implicitConversion

def SubjectModel.source (m : SubjectModel) (o : Options) : GeneratedSource where
  subject := m.subject.reference
  hintName := (m.proxy o).fileName
  text := (m.proxy o).text

def SubjectModel.generate (m : SubjectModel) (o : Options) : Outcome :=
  if !m.isSupported then .diagnostic (.unsupportedStaticType m.subject)
  else if !m.isEmitted then .skipped m.subject.reference m.subject.kind
  else .source (m.source o)

end Companion
