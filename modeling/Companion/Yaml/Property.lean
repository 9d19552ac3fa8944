import Companion.Yaml.Cursor
import Companion.Data.Scalar

/-!
# Anchors, tags and directives

The small words of a document. A tag is a handle with a suffix, or a whole name between angle
brackets; directives say which version a document is written in and what handles stand for.
-/

namespace Companion.Yaml

/-- A tag as it is written: its handle, empty where the suffix is the whole name, and its suffix. -/
structure TagWord where
  handle : String
  suffix : Tag
  deriving DecidableEq, Repr

inductive Directive where
  | version (major minor : Nat)
  | tag (handle : String) (lead : Tag)
  deriving DecidableEq, Repr

/-! ## Anchors -/

/-- A name may end here. -/
def endsName : List Char → Bool
  | [] => true
  | c :: _ => isBlank c || isBreak c || c ∈ ['?', ':', ',', ']', '}', '%', '@', '\x60']

/-- The name of an anchor or an alias, from behind its indicator. -/
def anchorName (c : Cursor) : Option (String × Cursor) :=
  let name := c.rest.takeWhile isWord
  let after := c.skip name.length
  if name.isEmpty || !endsName after.rest then none else some (String.ofList name, after)

/-! ## Tags -/

/-- A character of a tag's suffix. Between angle brackets, and in the text that a handle stands for,
    there are more of them. -/
def isTagChar (whole : Bool) (c : Char) : Bool :=
  isWord c || c ∈ [';', '/', '?', ':', '@', '&', '=', '+', '$', '.', '!', '~', '*', '\'', '(', ')']
    || (whole && c ∈ [',', '[', ']'])

/-- The octet of two hexadecimal digits behind a percent sign. -/
def percentOctet? : List Char → Option (UInt8 × List Char)
  | '%' :: a :: b :: rest => do
    return (UInt8.ofNat (16 * (← Scalar.digitValue? a) + (← Scalar.digitValue? b)), rest)
  | _ => none

/-- How many more octets belong to a character whose first octet this is. -/
def moreOctets? (lead : UInt8) : Option Nat :=
  let n := lead.toNat
  if n < 0x80 then some 0
  else if n / 32 == 6 then some 1
  else if n / 16 == 14 then some 2
  else if n / 8 == 30 then some 3
  else none

def percentTail? : Nat → List Char → Option (List UInt8)
  | 0, _ => some []
  | k + 1, cs => do
    let (octet, rest) ← percentOctet? cs
    if octet.toNat / 64 == 2 then return octet :: (← percentTail? k rest) else none

/-- The octets of a character written behind percent signs. Which character they make, if any, is
    not asked. -/
def percentChar? (cs : List Char) : Option (List UInt8) := do
  let (lead, rest) ← percentOctet? cs
  return lead :: (← percentTail? (← moreOctets? lead) rest)

/-- The octets of a tag's suffix. They are held backwards so far. -/
def tagOctets (whole : Bool) (done : List UInt8) (c : Cursor) : Option (List UInt8 × Cursor) :=
  match _h : c.rest with
  | [] => some (done.reverse, c)
  | a :: _ =>
    if a == '%' then
      match percentChar? c.rest with
      | none => none
      | some octets => tagOctets whole (octets.reverse ++ done) (c.skip (3 * (octets.length - 1) + 3))
    else if isTagChar whole a then tagOctets whole (UInt8.ofNat a.toNat :: done) c.next
    else some (done.reverse, c)
termination_by c.rest.length
decreasing_by
  · exact Cursor.length_skip _h (by omega)
  · exact Cursor.length_next _h

/-- The octets in front of the first zero, where a tag ends. -/
def untilZero (octets : List UInt8) : Tag :=
  octets.takeWhile (· != 0)

/-- A handle: an exclamation mark, or a word between two of them. -/
def tagHandle (c : Cursor) : Option (List Char × Cursor) :=
  match c.rest with
  | '!' :: rest =>
    let word := rest.takeWhile isWord
    let after := c.skip (1 + word.length)
    match after.rest with
    | '!' :: _ => some ('!' :: word ++ ['!'], after.next)
    | _ => some ('!' :: word, after)
  | _ => none

/-- A tag: a whole name between angle brackets, or a handle with a suffix. -/
def tagWord (inFlow : Bool) (c : Cursor) : Option (TagWord × Cursor) := do
  let (word, after) ← match c.rest with
    | '!' :: '<' :: _ => do
      let (suffix, after) ← tagOctets true [] (c.skip 2)
      if suffix.isEmpty || after.rest.head? != some '>' then none
      else some (({ handle := "", suffix := untilZero suffix } : TagWord), after.next)
    | _ => do
      let (handle, after) ← tagHandle c
      if 2 ≤ handle.length && handle.getLast? == some '!' then
        let (suffix, after) ← tagOctets false [] after
        if suffix.isEmpty then none
        else some ({ handle := String.ofList handle, suffix := untilZero suffix }, after)
      else
        -- Without a second exclamation mark, the handle's word is where the suffix begins.
        let (suffix, after) ←
          tagOctets false (Tag.ofName (String.ofList (handle.drop 1))).reverse after
        if (untilZero suffix).isEmpty then
          some ({ handle := "", suffix := [Tag.localMark] }, after)
        else some ({ handle := "!", suffix := untilZero suffix }, after)
  if (inFlow && after.rest.head? == some ',') || endsWord after.rest then some (word, after) else none

/-! ## Directives -/

/-- A number of at most nine digits. -/
def shortNumber (c : Cursor) : Option (Nat × Cursor) :=
  let digits := c.rest.takeWhile Char.isDigit
  if digits.isEmpty || 9 < digits.length then none
  else
    some (digits.foldl (fun n d => 10 * n + (d.toNat - '0'.toNat)) 0, c.skip digits.length)

def versionDirective (c : Cursor) : Option (Directive × Cursor) := do
  let (major, c) ← shortNumber (c.skipWhile isBlank)
  if c.rest.head? != some '.' then none
  else
    let (minor, c) ← shortNumber c.next
    return (.version major minor, c)

/-- A handle and the text that it stands for. -/
def tagDirective (c : Cursor) : Option (Directive × Cursor) := do
  let (handle, c) ← tagHandle (c.skipWhile isBlank)
  if handle != ['!'] && handle.getLast? != some '!' then none
  else if !(c.rest.head?.any isBlank) then none
  else
    let (lead, c) ← tagOctets true [] (c.skipWhile isBlank)
    if lead.isEmpty || !endsWord c.rest then none
    else some (.tag (String.ofList handle) (untilZero lead), c)

/-- A directive with the rest of its line, from behind its percent sign. -/
def directive (c : Cursor) : Option (Directive × Cursor) := do
  let name := c.rest.takeWhile isWord
  let c := c.skip name.length
  if !endsWord c.rest then none
  else
    let (d, c) ←
      if name == ['Y', 'A', 'M', 'L'] then versionDirective c
      else if name == ['T', 'A', 'G'] then tagDirective c
      else none
    let c := c.skipWhile isBlank
    let c := if c.rest.head? == some '#' then c.skipWhile (!isBreak ·) else c
    match c.rest with
    | [] => some (d, c)
    | a :: _ => if isBreak a then some (d, c.nextLine) else none

end Companion.Yaml
