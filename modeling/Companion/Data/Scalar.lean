/-!
# Scalars

A scalar of a block document: its text, how it was written, and its tag. What an unquoted text
stands for is the business of this module: which texts are nothing, a truth value, a whole number or
a decimal number. Everything else is text. The readings are asked one at a time, because a reader
who wants a text takes any scalar's text, and only a reader who wants to know what a scalar is asks
for all of them in turn.
-/

namespace Companion

inductive ScalarStyle where
  | plain
  | quoted
  | literal
  | folded
  deriving DecidableEq, Repr, Inhabited

/-- A tag. It is made of octets, which need not be those of a text. -/
abbrev Tag := List UInt8

def Tag.ofName (name : String) : Tag :=
  name.toList.map fun c => UInt8.ofNat c.toNat

/-- The octet of the exclamation mark that local tags begin with. -/
def Tag.localMark : UInt8 := 0x21

structure Scalar where
  text : String
  style : ScalarStyle := .plain
  tag : Option Tag := none
  deriving DecidableEq, Repr

namespace Scalar

/-! ## Tags -/

def standardPrefix : String := "tag:yaml.org,2002:"

def standardTag (name : String) : Tag :=
  Tag.ofName (standardPrefix ++ name)

def isLocal (tag : Tag) : Bool :=
  tag.head? == some Tag.localMark

/-- The name of a local tag: what follows its exclamation mark, or that mark if nothing does. Octets
    that are no text name nothing. -/
def localTag? (tag : Option Tag) : Option String :=
  match tag with
  | none => none
  | some t =>
    if isLocal t then
      String.fromUTF8? ⟨(if t.tail.isEmpty then t else t.tail).toArray⟩
    else none

/-! ## Words -/

def isNullWord (text : String) : Bool :=
  text ∈ ["null", "Null", "NULL", "~"]

def boolWord? (text : String) : Option Bool :=
  if text ∈ ["true", "True", "TRUE"] then some true
  else if text ∈ ["false", "False", "FALSE"] then some false
  else none

/-! ## Whole numbers -/

/-- The value of a digit in bases up to sixteen. -/
def digitValue? (c : Char) : Option Nat :=
  if '0' ≤ c ∧ c ≤ '9' then some (c.toNat - '0'.toNat)
  else if 'a' ≤ c ∧ c ≤ 'f' then some (c.toNat - 'a'.toNat + 10)
  else if 'A' ≤ c ∧ c ≤ 'F' then some (c.toNat - 'A'.toNat + 10)
  else none

/-- The value of at least one digit of the base, and nothing else. -/
def digits? (base : Nat) (cs : List Char) : Option Nat :=
  if cs.isEmpty then none
  else cs.foldl (fun acc c => do
    let n ← acc
    let d ← digitValue? c
    if d < base then some (n * base + d) else none) (some 0)

def below? (bound : Nat) (value : Option Nat) : Option Nat :=
  value.filter (· < bound)

/-- The base that a number is marked with, and what follows the mark. -/
def based? : List Char → Option (Nat × List Char)
  | '0' :: 'x' :: rest => some (16, rest)
  | '0' :: 'o' :: rest => some (8, rest)
  | '0' :: 'b' :: rest => some (2, rest)
  | _ => none

def isSigned : List Char → Bool
  | c :: _ => c == '+' || c == '-'
  | [] => false

/-- All digits, and more of them than one, the first a zero: no number but text. -/
def hasIdleZero (cs : List Char) : Bool :=
  let unsigned := if isSigned cs then cs.drop 1 else cs
  match unsigned with
  | '0' :: c :: rest => (c :: rest).all Char.isDigit
  | _ => false

/-- A whole number below the bound: digits behind an optional plus, or digits of another base
    behind its mark. -/
def natural? (bound : Nat) (text : String) : Option Nat :=
  let cs := text.toList
  let body := if cs.head? = some '+' then cs.drop 1 else cs
  let marked : Option (Option Nat) :=
    match based? body with
    | none => none
    | some (base, rest) =>
      if isSigned rest then some none
      else (below? bound (digits? base rest)).map some
  match marked with
  | some answer => answer
  | none =>
    if isSigned body || hasIdleZero cs then none else below? bound (digits? 10 body)

/-- The size of a whole number behind a minus sign, at most `bound`. -/
def negative? (bound : Nat) (text : String) : Option Nat :=
  match text.toList with
  | '-' :: body =>
    let marked : Option Nat :=
      match based? body with
      | none => none
      | some (base, rest) => below? (bound + 1) (digits? base rest)
    match marked with
    | some n => some n
    | none => if hasIdleZero ('-' :: body) then none else below? (bound + 1) (digits? 10 body)
  | _ => none

/-! ## Decimal numbers -/

def spanDigits (cs : List Char) : List Char × List Char :=
  (cs.takeWhile Char.isDigit, cs.dropWhile Char.isDigit)

/-- The value of an exponent: nothing, or a mark, an optional sign, and digits to the end. -/
def exponent? : List Char → Option Int
  | [] => some 0
  | c :: rest =>
    if c == 'e' || c == 'E' then
      let negative := rest.head? = some '-'
      let digits := if isSigned rest then rest.drop 1 else rest
      (digits? 10 digits).map fun n => if negative then -(n : Int) else n
    else none

/-- The middle between the greatest double and the next power of two. -/
def finiteBound : Nat := Nat.pow 2 1024 - Nat.pow 2 970

/-- The value `n · 10^e` is below the middle between the greatest double and the next power of
    two, so that it rounds to a finite one. Far exponents are decided by the count of digits. -/
def isFinite (n : Nat) (e : Int) : Bool :=
  let size : Int := (Nat.toDigits 10 n).length + e
  if n = 0 then true
  else if size > 400 then false
  else if size < 300 then true
  else if 0 ≤ e then n * Nat.pow 10 e.toNat < finiteBound
  else n < finiteBound * Nat.pow 10 (-e).toNat

/-- The text is a decimal number: a spelling of infinity or of no number, or digits with an optional
    sign, point and exponent whose value is finite. -/
def isDecimal (text : String) : Bool :=
  let cs := text.toList
  let unplussed := if cs.head? = some '+' then cs.drop 1 else cs
  if cs.head? = some '+' && isSigned unplussed then false
  else if String.ofList unplussed ∈ [".inf", ".Inf", ".INF"] then true
  else if text ∈ ["-.inf", "-.Inf", "-.INF", ".nan", ".NaN", ".NAN"] then true
  else
    let body := if isSigned unplussed then unplussed.drop 1 else unplussed
    let (whole, afterWhole) := spanDigits body
    let (fraction, afterFraction) :=
      match afterWhole with
      | '.' :: rest => spanDigits rest
      | rest => ([], rest)
    if whole.isEmpty && fraction.isEmpty then false
    else
      match exponent? afterFraction, digits? 10 (whole ++ fraction) with
      | some e, some n => isFinite n (e - fraction.length)
      | _, _ => false

/-! ## What a scalar stands for when somebody asks for one thing -/

/-- Unquoted, or a block text under the tag that names what is asked for. -/
def mayBe (name : String) (s : Scalar) : Bool :=
  match s.style with
  | .plain => true
  | .literal => s.tag == some (standardTag name)
  | _ => false

def flag? (s : Scalar) : Option Bool :=
  if s.mayBe "bool" then boolWord? s.text else none

/-- The scalar as a whole number of 64 bits. -/
def word64? (s : Scalar) : Option Nat :=
  if s.mayBe "int" then natural? UInt64.size s.text else none

/-- The scalar stands for nothing: an unquoted empty text or spelling of nothing. -/
def isBlank (s : Scalar) : Bool :=
  s.style == .plain && (s.text == "" || isNullWord s.text)

/-- The scalar is there only because nothing was written. -/
def isAbsent (s : Scalar) : Bool :=
  s.style == .plain && s.text == ""

end Scalar

end Companion
