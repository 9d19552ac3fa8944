import Companion.Yaml.Document
import Companion.Data.Value

/-!
# Reading documents

A document is read along an outline, which says where records are and which of their fields count.
Within the outline scalars stay as they are written. Below it, inside a variant, everything is typed.
Fields that the outline does not name are passed over, whatever they hold, or refused where the
outline is closed.

Two bounds keep a short text from standing for a large value: collections nest at most 128 deep, and
aliases are followed at most a hundred times for every mark of the document. Both count only what is
read.
-/

namespace Companion.Yaml

inductive Outline where
  /-- A scalar, as it is written. -/
  | text
  /-- A list of which every item is looked at in the same way. -/
  | items (each : Outline)
  /-- A record of which these fields count. A closed one has no other fields. -/
  | fields (known : List (String × Outline)) (closed : Bool := false)
  /-- A record or list of typed values, but for the scalar that names its variant: the field of that
      name, or the first item. -/
  | variant (field : String)
  /-- Typed values all through. -/
  | typed

/-- How deep collections may nest. -/
def nestingLimit : Nat := 128

/-- How many aliases may still be followed. -/
abbrev Reading := StateT Nat Option

/-- The node that is meant: for an alias, the one that it stands for. -/
def Document.follow (d : Document) : Node → Reading (Node)
  | .alias label => do
    match ← get with
    | 0 => failure
    | left + 1 =>
      set left
      match d.anchors.lookup label with
      | some n => return n
      | none => failure
  | n => pure n

def readScalar : Outline → Scalar → Option Value
  | .typed, s => s.typed?
  | _, s => some (.scalar s)

/-- The text of a key where fields are known by name. -/
def Document.keyText (d : Document) (key : Node) : Reading String := do
  match ← d.follow key with
  | .scalar s _ => return s.text
  | _ => failure

/-- Reads a node along an outline, at most so many collections deep. -/
def Document.readAt (d : Document) : Nat → Outline → Node → Reading Value
  | 0, o, n => do
    match ← d.follow n with
    | .scalar s _ => StateT.lift (readScalar o s)
    | _ => failure
  | depth + 1, o, n => do
    let typedKey (key : Node) : Reading Key := do
      match ← d.follow key with
      | .scalar s _ => StateT.lift s.key?
      | n =>
        -- No field has such a key, but what is wrong with it is still found.
        let _ ← d.readAt depth .typed n
        return .other
    match ← d.follow n, o with
    | .scalar s _, o => StateT.lift (readScalar o s)
    | .list items _ _, .items each => return .list (← items.mapM (d.readAt depth each))
    | .list items tag _, .typed =>
      if (Scalar.localTag? tag).isSome then failure
      else return .list (← items.mapM (d.readAt depth .typed))
    | .list items tag _, .variant _ =>
      if (Scalar.localTag? tag).isSome then failure
      else
        match items with
        | [] => return .list []
        | first :: rest =>
          let first ← d.readAt depth .text first
          return .list (first :: (← rest.mapM (d.readAt depth .typed)))
    | .record entries _ _, .fields known closed =>
      let read ← entries.mapM fun e => do
        let name ← d.keyText e.1
        match known.lookup name with
        | none => if closed then failure else return []
        | some o => return [(Key.name name, ← d.readAt depth o e.2)]
      return .record read.flatten
    | .record entries tag _, .typed =>
      if (Scalar.localTag? tag).isSome then failure
      else return .record (← entries.mapM fun e => do
        return (← typedKey e.1, ← d.readAt depth .typed e.2))
    | .record entries tag _, .variant field =>
      if (Scalar.localTag? tag).isSome then failure
      else return .record (← entries.mapM fun e => do
        let key ← typedKey e.1
        return (key, ← d.readAt depth (if key == .name field then .text else .typed) e.2))
    | _, _ => failure

def Document.read (d : Document) (o : Outline) : Option Value :=
  ((d.readAt nestingLimit o d.root).run (100 * marks d.root)).map (·.1)

/-- What the only document of a text holds: it is read along an outline, and something is made of its
    value. -/
def load {α : Type} (o : Outline) (make : Value → Option α) (text : String) : Except Fault α := do
  let (root, rest) ← firstRoot (tokens text)
  -- What the first document is comes before what follows it.
  let a ← ((Document.ofRoot root).read o).bind make
  noFurther rest
  return a

end Companion.Yaml
