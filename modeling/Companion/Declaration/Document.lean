import Companion.Declaration.Decode
import Companion.Yaml.Outline

/-!
# Manifests as documents

A manifest is written as a block document. Down to the members everything is read as it is written,
so that a name may look like a number or a truth value; a member is typed before it is read.
-/

namespace Companion

def SubjectDecl.outline : Yaml.Outline :=
  .fields <|
    ["name", "namespace", "reference", "kind", "is-static", "is-ref-like", "is-unsafe"].map
      (fun name => (name, .text)) ++
    [("generic-parameters", .items .text),
      ("location", .fields [("path", .text), ("line", .text), ("column", .text)]),
      ("members", .items (.variant "member"))]

def Manifest.outline : Yaml.Outline :=
  .fields
    [("manifest", .fields
      [("assembly", .text), ("description", .text),
        ("imports", .items (.fields [("path", .text)]))]),
      ("subjects", .items SubjectDecl.outline)]

def Manifest.parse (text : String) : Except Yaml.Fault Manifest :=
  Yaml.load outline decode? text

end Companion
