import Companion.Model.Encode

/-!
# Diagnostics

Conditions that a run reports. A diagnostic's message is a format with numbered places; arguments are
put in one after the other, so that an earlier argument may bring in a place that a later one fills.
The one condition that generation reports is a static subject.
-/

namespace Companion

inductive Severity where
  | hidden
  | info
  | warning
  | error
  deriving DecidableEq, Repr, Inhabited

instance : Vocabulary Severity where
  all := [.hidden, .info, .warning, .error]
  word
    | .hidden => "hidden"
    | .info => "info"
    | .warning => "warning"
    | .error => "error"

/-- A kind of condition. -/
structure Rule where
  id : String
  title : String
  messageFormat : String
  category : String
  severity : Severity
  deriving DecidableEq, Repr

/-- Static subjects get no companion. -/
def Rule.unsupportedStaticType : Rule where
  id := "RFL0001"
  title := "Unsupported Static Type"
  messageFormat := "Unsupported static type '\x7b0\x7d'. Static types will be supported from a future release onward."
  category := "Usage"
  severity := .error

/-! ## Messages -/

/-- The characters with every occurrence of `place` replaced, from left to right. The place must not
    be empty. -/
def replaceAll (place argument : List Char) : List Char → List Char
  | [] => []
  | c :: rest =>
    if place.isPrefixOf (c :: rest) && !place.isEmpty then
      argument ++ replaceAll place argument (rest.drop (place.length - 1))
    else c :: replaceAll place argument rest
termination_by text => text.length
decreasing_by
  · simp only [List.length_drop, List.length_cons]; omega
  · simp

/-- The place that an argument is put in. -/
def placeholder (index : Nat) : List Char :=
  '\x7b' :: (toString index).toList ++ ['\x7d']

/-- Puts the arguments in, counted from `index`, one after the other. -/
def fillFrom (index : Nat) : List (List Char) → List Char → List Char
  | [], format => format
  | argument :: rest, format =>
    fillFrom (index + 1) rest (replaceAll (placeholder index) argument format)

def Rule.message (r : Rule) (arguments : List String) : String :=
  String.ofList (fillFrom 0 (arguments.map String.toList) r.messageFormat.toList)

structure Diagnostic where
  id : String
  title : String
  message : String
  severity : Severity
  category : String
  location : Option SourceLocation
  deriving DecidableEq, Repr

namespace Diagnostic

def ofRule (r : Rule) (location : Option SourceLocation) (arguments : List String) : Diagnostic where
  id := r.id
  title := r.title
  message := r.message arguments
  severity := r.severity
  category := r.category
  location := location

def unsupportedStaticType (s : SubjectDescriptor) : Diagnostic :=
  ofRule .unsupportedStaticType s.location [s.name]

/-- The condition makes a run fail. -/
def isError (d : Diagnostic) : Bool :=
  d.severity == .error

def display (d : Diagnostic) : String :=
  (match d.location with
    | none => ""
    | some l => l.display ++ ": ")
  ++ Vocabulary.word d.severity ++ " " ++ d.id ++ ": " ++ d.message

def encode (d : Diagnostic) : Value :=
  .ofFields [("id", .text d.id), ("title", .text d.title), ("message", .text d.message),
    ("severity", Vocabulary.write d.severity), ("category", .text d.category),
    ("location", SourceLocation.encode? d.location)]

end Diagnostic

end Companion
