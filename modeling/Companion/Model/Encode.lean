import Companion.Model.Basic
import Companion.Declaration.Encode

/-!
# Models as values

A model as reports and fingerprints write it. The fields stand in a fixed order, which the
fingerprint relies on. Type parameters, and the constraints of one, are left out when there are none.
-/

namespace Companion

/-- The value of a location inside a model: null where none is known. -/
def SourceLocation.encode? (l : Option SourceLocation) : Value :=
  .ofOption SourceLocation.encode l

def SubjectDescriptor.encode (s : SubjectDescriptor) : Value :=
  .ofFields [("name", .text s.name), ("namespace", .ofOption .text s.namespaceName),
    ("reference", .text s.reference), ("kind", Vocabulary.write s.kind),
    ("modifiers", .text s.modifiers.display),
    ("generic_parameters", .list (s.genericParameters.map .text)),
    ("location", SourceLocation.encode? s.location)]

def PropertyDescriptor.encode (p : PropertyDescriptor) : Value :=
  .ofFields [("name", .text p.name), ("type_name", .text p.typeName),
    ("modifiers", .text p.modifiers.display)]

def ParameterDescriptor.encode (p : ParameterDescriptor) : Value :=
  .ofFields [("name", .text p.name), ("type_name", .text p.typeName),
    ("passing", .text p.passing.listed)]

def TypeParameterDescriptor.encode (p : TypeParameterDescriptor) : Value :=
  .ofFields ([("name", Value.text p.name)]
    ++ if p.constraints.isEmpty then [] else [("constraints", .list (p.constraints.map .text))])

def MethodDescriptor.encode (m : MethodDescriptor) : Value :=
  .ofFields ([("name", .text m.name), ("return_type", .text m.returnType),
      ("modifiers", .text m.modifiers.display),
      ("parameters", .list (m.parameters.map ParameterDescriptor.encode))]
    ++ if m.typeParameters.isEmpty then []
      else [("type_parameters", .list (m.typeParameters.map TypeParameterDescriptor.encode))])

def SubjectModel.encode (m : SubjectModel) : Value :=
  .ofFields [("subject", m.subject.encode),
    ("properties", .list (m.properties.map PropertyDescriptor.encode)),
    ("methods", .list (m.methods.map MethodDescriptor.encode))]

end Companion
