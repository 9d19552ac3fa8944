import Companion.Yaml.Token

/-!
# Nodes

The tokens of a document as a tree. Where an item, a key or a value may stand and nothing does, an
empty plain scalar stands for it.

Every function returns the tokens that it left, with the fact that they are fewer than those it began
with. That fact ends every loop. Where tokens do not fit, the fault is the one that the first of them
stands for, if it stands for one: nothing behind it has been looked at.
-/

namespace Companion.Yaml

/-- What may stand in front of a node: a tag and an anchor, in either order. -/
structure Properties where
  tag : Option Tag := none
  anchor : Option Nat := none
  deriving DecidableEq, Repr

/-- A node of a document, with the number of its anchor. -/
inductive Node where
  | scalar (s : Scalar) (anchor : Option Nat)
  | list (items : List Node) (tag : Option Tag) (anchor : Option Nat)
  | record (entries : List (Node × Node)) (tag : Option Tag) (anchor : Option Nat)
  | alias (label : Nat)
  deriving Repr

/-- The node where none is written. -/
def Node.empty : Node := .scalar { text := "" } none

/-- What is wrong with tokens that do not fit. -/
def faultAt : List Token → Fault
  | .broken f :: _ => f
  | _ => .malformed

/-! ## Properties -/

/-- What handles stand for, the document's own first. -/
abbrev Handles := List (String × Tag)

/-- What handles stand for where a document says nothing else. -/
def Handles.standard : Handles :=
  [("!", [Tag.localMark]), ("!!", Tag.ofName Scalar.standardPrefix)]

/-- The tag of a word, unless its handle stands for nothing. -/
def tagOf (handles : Handles) (w : TagWord) : Option Tag :=
  if w.handle == "" then some w.suffix
  else (handles.lookup w.handle).map (· ++ w.suffix)

/-- Properties with a tag, in front of some tokens. -/
def tagged (handles : Handles) (w : TagWord) (anchor : Option Nat) (rest : List Token) :
    Except Fault (Properties × List Token) :=
  match tagOf handles w with
  | some tag => .ok ({ tag := some tag, anchor }, rest)
  | none => .error (faultAt rest)

theorem eq_of_tagged {handles : Handles} {w : TagWord} {anchor : Option Nat}
    {ts rest : List Token} {p : Properties} (h : tagged handles w anchor ts = .ok (p, rest)) :
    rest = ts ∧ p.tag.isSome := by
  unfold tagged at h
  split at h <;> cases h
  exact ⟨rfl, rfl⟩

/-- The properties in front of a node, and the tokens behind them. -/
def properties (handles : Handles) : List Token → Except Fault (Properties × List Token)
  | .anchor a :: .tag w :: rest => tagged handles w (some a) rest
  | .tag w :: .anchor a :: rest => tagged handles w (some a) rest
  | .anchor a :: rest => .ok ({ anchor := some a }, rest)
  | .tag w :: rest => tagged handles w none rest
  | rest => .ok ({}, rest)

theorem length_properties_le {handles : Handles} {ts rest : List Token} {p : Properties}
    (h : properties handles ts = .ok (p, rest)) : rest.length ≤ ts.length := by
  unfold properties at h
  split at h
  · rw [(eq_of_tagged h).1]
    simp only [List.length_cons]
    omega
  · rw [(eq_of_tagged h).1]
    simp only [List.length_cons]
    omega
  · cases h
    simp
  · rw [(eq_of_tagged h).1]
    simp
  · cases h
    exact Nat.le_refl _

theorem length_properties_lt {handles : Handles} {ts rest : List Token} {p : Properties}
    (h : properties handles ts = .ok (p, rest)) (hp : p ≠ {}) : rest.length < ts.length := by
  unfold properties at h
  split at h
  · rw [(eq_of_tagged h).1]
    simp only [List.length_cons]
    omega
  · rw [(eq_of_tagged h).1]
    simp only [List.length_cons]
    omega
  · cases h
    simp
  · rw [(eq_of_tagged h).1]
    simp
  · cases h
    exact absurd rfl hp

theorem length_lt_of_properties {handles : Handles} {ts rest : List Token} {p : Properties}
    {t : Token} (h : properties handles ts = .ok (p, t :: rest)) : rest.length < ts.length := by
  have := length_properties_le h
  simp only [List.length_cons] at this
  omega

def scalarNode (p : Properties) (text : String) (style : ScalarStyle) : Node :=
  .scalar { text, style, tag := p.tag } p.anchor

/-! ## The grammar -/

/-- Nothing is written for a block collection's key or value in front of these. -/
def endsBlockPart : List Token → Bool
  | .key :: _ | .value :: _ | .blockEnd :: _ => true
  | _ => false

/-- Nothing is written for an item of a block sequence in front of these. -/
def endsBlockItem : List Token → Bool
  | .blockEntry :: _ | .blockEnd :: _ => true
  | _ => false

/-- Nothing is written for an item of a sequence that is not indented in front of these. -/
def endsFlushItem : List Token → Bool
  | .blockEntry :: _ | .key :: _ | .value :: _ | .blockEnd :: _ => true
  | _ => false

/-- Nothing is written for a part of a flow mapping in front of these. -/
def endsFlowPart : List Token → Bool
  | .value :: _ | .flowEntry :: _ | .flowMappingEnd :: _ => true
  | _ => false

/-- Nothing is written for a part of a pair in a flow sequence in front of these. -/
def endsPairPart : List Token → Bool
  | .value :: _ | .flowEntry :: _ | .flowSequenceEnd :: _ => true
  | _ => false

/-- The value's colon, if it is there, and whether it is. -/
def takeValue : List Token → Bool × List Token
  | .value :: rest => (true, rest)
  | rest => (false, rest)

theorem length_takeValue_le (ts : List Token) : (takeValue ts).2.length ≤ ts.length := by
  unfold takeValue
  split <;> simp

/-- Behind the comma that separates entries. Nothing separates the first one. -/
def afterComma (first : Bool) : List Token → Option (List Token)
  | .flowEntry :: rest => if first then some (.flowEntry :: rest) else some rest
  | rest => if first then some rest else none

theorem length_afterComma_le {first : Bool} {ts rest : List Token}
    (h : afterComma first ts = some rest) : rest.length ≤ ts.length := by
  unfold afterComma at h
  split at h <;> split at h
  · cases h
    exact Nat.le_refl _
  · cases h
    exact Nat.le_succ _
  · cases h
    exact Nat.le_refl _
  · cases h

/-! ## What is read takes tokens -/

/-- Something read off the front of some tokens, and the tokens that it left: fewer than `bound`. -/
structure Parsed (α : Type) (bound : Nat) where
  value : α
  rest : List Token
  length_rest : rest.length < bound

/-- The same tokens, with something else made of them, under a larger bound. -/
def Parsed.map {α β : Type} {n m : Nat} (f : α → β) (h : n ≤ m) (p : Parsed α n) : Parsed β m :=
  ⟨f p.value, p.rest, Nat.lt_of_lt_of_le p.length_rest h⟩

private theorem lex_of_le {a b r s : Nat} (h : a ≤ b) (hr : r < s) :
    Prod.Lex (· < ·) (· < ·) (a, r) (b, s) := by
  rcases Nat.lt_or_eq_of_le h with hlt | rfl
  · exact .left _ _ hlt
  · exact .right _ hr

mutual

/-- A node. `block` lets block collections begin here, `flush` a sequence that is not indented. -/
def node (handles : Handles) (block flush : Bool) (ts : List Token) :
    Except Fault (Parsed Node ts.length) :=
  match ts with
  | .alias label :: rest => .ok ⟨.alias label, rest, by simp⟩
  | ts =>
    match h : properties handles ts with
    | .error f => .error f
    | .ok (p, .scalar text style :: rest) =>
      .ok ⟨scalarNode p text style, rest, length_lt_of_properties h⟩
    | .ok (p, .flowSequenceStart :: rest) =>
      (flowItems handles rest.length true [] rest (Nat.le_refl _)).map
        (.map (.list · p.tag p.anchor) (Nat.le_of_lt (length_lt_of_properties h)))
    | .ok (p, .flowMappingStart :: rest) =>
      (flowEntries handles rest.length true [] rest (Nat.le_refl _)).map
        (.map (.record · p.tag p.anchor) (Nat.le_of_lt (length_lt_of_properties h)))
    | .ok (p, rest) =>
      -- Properties alone stand in front of an empty scalar, but nothing at all is no node.
      let bare : Except Fault (Parsed Node ts.length) :=
        if hp : p = {} then .error (faultAt rest)
        else .ok ⟨scalarNode p "" .plain, rest, length_properties_lt h hp⟩
      match rest, h with
      | .blockEntry :: more, h =>
        if flush then
          (flushItems handles (more.length + 1) [] more (Nat.lt_succ_self _)).map
            (.map (.list · p.tag p.anchor) (length_lt_of_properties h))
        else bare
      | .blockSequenceStart :: more, h =>
        if block then
          (blockItems handles more.length [] more (Nat.le_refl _)).map
            (.map (.list · p.tag p.anchor) (Nat.le_of_lt (length_lt_of_properties h)))
        else bare
      | .blockMappingStart :: more, h =>
        if block then
          (blockEntries handles more.length [] more (Nat.le_refl _)).map
            (.map (.record · p.tag p.anchor) (Nat.le_of_lt (length_lt_of_properties h)))
        else bare
      | _, _ => bare
termination_by (ts.length, 1)
decreasing_by all_goals exact .left _ _ (length_lt_of_properties h)

/-- A node, or the empty one where nothing is written for it. -/
def nodeUnless (handles : Handles) (nothing block flush : Bool) (ts : List Token) :
    Except Fault (Parsed Node (ts.length + 1)) :=
  if nothing then .ok ⟨.empty, ts, Nat.lt_succ_self _⟩
  else (node handles block flush ts).map (.map id (Nat.le_succ _))
termination_by (ts.length, 2)

/-- The items of an indented block sequence, behind its beginning. -/
def blockItems (handles : Handles) (bound : Nat) (done : List Node) (ts : List Token)
    (hts : ts.length ≤ bound) : Except Fault (Parsed (List Node) bound) :=
  match ts with
  | .blockEnd :: rest => .ok ⟨done.reverse, rest, hts⟩
  | .blockEntry :: rest =>
    match nodeUnless handles (endsBlockItem rest) true false rest with
    | .error f => .error f
    | .ok ⟨item, after, hafter⟩ =>
      blockItems handles bound (item :: done) after (Nat.le_trans (Nat.le_of_lt hafter) hts)
  | ts => .error (faultAt ts)
termination_by (ts.length, 0)
decreasing_by
  · exact .left _ _ (by simp)
  · exact .left _ _ hafter

/-- The items of a block sequence that is not indented, behind the dash of its first. It ends where
    no further item begins. -/
def flushItems (handles : Handles) (bound : Nat) (done : List Node) (ts : List Token)
    (hts : ts.length < bound) : Except Fault (Parsed (List Node) bound) :=
  match nodeUnless handles (endsFlushItem ts) true false ts with
  | .error f => .error f
  | .ok ⟨item, after, hafter⟩ =>
    match after, hafter with
    | .blockEntry :: more, hmore =>
      flushItems handles bound (item :: done) more
        (Nat.lt_trans (Nat.lt_of_succ_lt_succ hmore) hts)
    | after, hafter => .ok ⟨(item :: done).reverse, after, Nat.lt_of_lt_of_le hafter hts⟩
termination_by (ts.length, 3)
decreasing_by
  · exact .right _ (by omega)
  · exact .left _ _ (Nat.lt_of_succ_lt_succ hmore)

/-- The entries of a block mapping, behind its beginning. -/
def blockEntries (handles : Handles) (bound : Nat) (done : List (Node × Node))
    (ts : List Token) (hts : ts.length ≤ bound) :
    Except Fault (Parsed (List (Node × Node)) bound) :=
  match ts with
  | .blockEnd :: rest => .ok ⟨done.reverse, rest, hts⟩
  | .key :: rest =>
    match nodeUnless handles (endsBlockPart rest) true true rest with
    | .error f => .error f
    | .ok ⟨key, afterKey, hkey⟩ =>
      let colon := takeValue afterKey
      have hcolon : colon.2.length < rest.length + 1 :=
        Nat.lt_of_le_of_lt (length_takeValue_le afterKey) hkey
      match nodeUnless handles (!colon.1 || endsBlockPart colon.2) true true colon.2 with
      | .error f => .error f
      | .ok ⟨value, after, hafter⟩ =>
        have hlt : after.length < rest.length + 1 := Nat.lt_of_lt_of_le hafter hcolon
        blockEntries handles bound ((key, value) :: done) after
          (Nat.le_trans (Nat.le_of_lt hlt) hts)
  | ts => .error (faultAt ts)
termination_by (ts.length, 0)
decreasing_by
  · exact .left _ _ (by simp)
  · exact .left _ _ hcolon
  · exact .left _ _ hlt

/-- The items of a flow sequence, behind its beginning. An item may be a pair. -/
def flowItems (handles : Handles) (bound : Nat) (first : Bool) (done : List Node)
    (ts : List Token) (hts : ts.length ≤ bound) : Except Fault (Parsed (List Node) bound) :=
  match ts with
  | .flowSequenceEnd :: rest => .ok ⟨done.reverse, rest, hts⟩
  | ts =>
    match h : afterComma first ts with
    | none => .error (faultAt ts)
    | some (.flowSequenceEnd :: rest) =>
      .ok ⟨done.reverse, rest, Nat.le_trans (length_afterComma_le h) hts⟩
    | some (.key :: rest) =>
      have hrest : rest.length < ts.length := length_afterComma_le h
      -- An item with a key is a record of its own, with that one entry.
      let nothing := endsPairPart rest
      let start := if nothing then rest.drop 1 else rest
      have hstart : start.length ≤ rest.length := by
        simp only [start]
        split
        · simp
        · exact Nat.le_refl _
      match nodeUnless handles nothing false false start with
      | .error f => .error f
      | .ok ⟨key, afterKey, hkey⟩ =>
        let colon := takeValue afterKey
        have hcolon : colon.2.length < ts.length :=
          Nat.lt_of_le_of_lt (length_takeValue_le afterKey)
            (Nat.lt_of_lt_of_le hkey (Nat.lt_of_le_of_lt hstart hrest))
        match nodeUnless handles (!colon.1 || endsPairPart colon.2) false false colon.2 with
        | .error f => .error f
        | .ok ⟨value, after, hafter⟩ =>
          have hlt : after.length < ts.length := Nat.lt_of_lt_of_le hafter hcolon
          flowItems handles bound false (.record [(key, value)] none none :: done) after
            (Nat.le_trans (Nat.le_of_lt hlt) hts)
    | some rest =>
      have hrest : rest.length ≤ ts.length := length_afterComma_le h
      match node handles false false rest with
      | .error f => .error f
      | .ok ⟨item, after, hafter⟩ =>
        have hlt : after.length < ts.length := Nat.lt_of_lt_of_le hafter hrest
        flowItems handles bound false (item :: done) after (Nat.le_trans (Nat.le_of_lt hlt) hts)
termination_by (ts.length, 3)
decreasing_by
  · exact .left _ _ (Nat.lt_of_le_of_lt hstart hrest)
  · exact .left _ _ hcolon
  · exact .left _ _ hlt
  · exact lex_of_le hrest (by omega)
  · exact .left _ _ hlt

/-- The entries of a flow mapping, behind its beginning. -/
def flowEntries (handles : Handles) (bound : Nat) (first : Bool)
    (done : List (Node × Node)) (ts : List Token) (hts : ts.length ≤ bound) :
    Except Fault (Parsed (List (Node × Node)) bound) :=
  match ts with
  | .flowMappingEnd :: rest => .ok ⟨done.reverse, rest, hts⟩
  | ts =>
    match h : afterComma first ts with
    | none => .error (faultAt ts)
    | some (.flowMappingEnd :: rest) =>
      .ok ⟨done.reverse, rest, Nat.le_trans (length_afterComma_le h) hts⟩
    | some (.key :: rest) =>
      have hrest : rest.length < ts.length := length_afterComma_le h
      match nodeUnless handles (endsFlowPart rest) false false rest with
      | .error f => .error f
      | .ok ⟨key, afterKey, hkey⟩ =>
        let colon := takeValue afterKey
        have hcolon : colon.2.length < ts.length :=
          Nat.lt_of_le_of_lt (length_takeValue_le afterKey) (Nat.lt_of_lt_of_le hkey hrest)
        match nodeUnless handles (!colon.1 || endsFlowPart colon.2) false false colon.2 with
        | .error f => .error f
        | .ok ⟨value, after, hafter⟩ =>
          have hlt : after.length < ts.length := Nat.lt_of_lt_of_le hafter hcolon
          flowEntries handles bound false ((key, value) :: done) after
            (Nat.le_trans (Nat.le_of_lt hlt) hts)
    | some rest =>
      have hrest : rest.length ≤ ts.length := length_afterComma_le h
      match node handles false false rest with
      | .error f => .error f
      | .ok ⟨key, after, hafter⟩ =>
        have hlt : after.length < ts.length := Nat.lt_of_lt_of_le hafter hrest
        flowEntries handles bound false ((key, .empty) :: done) after
          (Nat.le_trans (Nat.le_of_lt hlt) hts)
termination_by (ts.length, 3)
decreasing_by
  · exact .left _ _ hrest
  · exact .left _ _ hcolon
  · exact .left _ _ hlt
  · exact lex_of_le hrest (by omega)
  · exact .left _ _ hlt

end

end Companion.Yaml
