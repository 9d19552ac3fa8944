import Companion.Yaml.Node

/-!
# Documents

A text with one document: its directives, its root node, and nothing behind it. Anchors are numbered,
and an alias stands for the last node of the document that has its number, which may come behind it.
An alias inside the node that it stands for is no error here: it is one where it is read.

The document is there for its reader before anything behind it is looked at, because a text whose
first document is not what its reader wants is refused for that.
-/

namespace Companion.Yaml

/-! ## One document among tokens -/

/-- Takes a directive into the handles. Versions other than 1.1 and 1.2, a second version, and a
    second meaning of a handle are refused. -/
def addDirective (versioned : Bool) (handles : Handles) : Directive → Option (Bool × Handles)
  | .version major minor =>
    if versioned || major != 1 || (minor != 1 && minor != 2) then none else some (true, handles)
  | .tag handle lead =>
    if handles.any (·.1 == handle) then none else some (versioned, handles ++ [(handle, lead)])

/-- The directives in front of a document, which its marker has to follow. -/
def directives (versioned : Bool) (handles : Handles) :
    List Token → Except Fault (Handles × List Token)
  | .directive d :: rest =>
    match addDirective versioned handles d with
    | none => .error .malformed
    | some (versioned, handles) => directives versioned handles rest
  | .documentStart :: rest => .ok (handles, rest)
  | ts => .error (faultAt ts)

/-- No node is written behind a document's marker. -/
def endsDocument : List Token → Bool
  | [] | .directive _ :: _ | .documentStart :: _ | .documentEnd :: _ => true
  | _ => false

/-- The root of a document, once the token behind it can be read. -/
def closed (root : Node) (rest : List Token) : Except Fault (Node × List Token) :=
  match rest with
  | .broken f :: _ => .error f
  | rest => .ok (root, rest)

def markedRoot (ts : List Token) : Except Fault (Node × List Token) := do
  let (handles, body) ← directives false [] ts
  let p ← nodeUnless (handles ++ .standard) (endsDocument body) true false body
  closed p.value p.rest

/-- The root of the first document. No tokens at all are an empty document. -/
def firstRoot (ts : List Token) : Except Fault (Node × List Token) := do
  match ts with
  | [] => return (.empty, [])
  | .directive _ :: _ | .documentStart :: _ => markedRoot ts
  | ts =>
    let p ← node .standard true false ts
    closed p.value p.rest

/-- Nothing but markers of its end follows a document. -/
def noFurther (ts : List Token) : Except Fault Unit := do
  match ts.dropWhile (· == .documentEnd) with
  | [] => return
  | rest =>
    -- A further document is refused behind its end, so that its own faults come first.
    let _ ← markedRoot rest
    .error .malformed

/-! ## Anchors -/

mutual

/-- The nodes with anchors, under their numbers, in the order of the text. -/
def anchored : Node → List (Nat × Node)
  | .scalar s anchor => (anchor.map (·, Node.scalar s anchor)).toList
  | .list items tag anchor =>
    (anchor.map (·, Node.list items tag anchor)).toList ++ anchoredItems items
  | .record entries tag anchor =>
    (anchor.map (·, Node.record entries tag anchor)).toList ++ anchoredEntries entries
  | .alias _ => []

def anchoredItems : List Node → List (Nat × Node)
  | [] => []
  | n :: rest => anchored n ++ anchoredItems rest

def anchoredEntries : List (Node × Node) → List (Nat × Node)
  | [] => []
  | (k, v) :: rest => anchored k ++ anchored v ++ anchoredEntries rest

end

mutual

/-- How many marks a node sets: one for a scalar or an alias, two for the ends of a collection and
    those of everything in it. -/
def marks : Node → Nat
  | .scalar .. | .alias _ => 1
  | .list items .. => 2 + marksOfItems items
  | .record entries .. => 2 + marksOfEntries entries

def marksOfItems : List Node → Nat
  | [] => 0
  | n :: rest => marks n + marksOfItems rest

def marksOfEntries : List (Node × Node) → Nat
  | [] => 0
  | (k, v) :: rest => marks k + marks v + marksOfEntries rest

end

/-- A document, with what its aliases stand for. -/
structure Document where
  root : Node
  /-- The nodes that have anchors, last one first. -/
  anchors : List (Nat × Node)

def Document.ofRoot (root : Node) : Document :=
  { root, anchors := (anchored root).reverse }

end Companion.Yaml
