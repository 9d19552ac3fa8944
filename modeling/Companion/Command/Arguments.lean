/-!
# Command lines

The words behind the program's name: a command, and the options of that command. An option is given by
its long name or by its letter, with its value in the next word or in the same one. Anything else
among the words is refused, and so is a second occurrence of an option that stands for one thing.
-/

namespace Companion

/-! ## Options in general -/

inductive OptionValue where
  | nothing
  /-- A path, which is not empty. -/
  | path
  | text
  /-- One of some words. -/
  | word (choices : List String)
  deriving DecidableEq, Repr

structure OptionSpec where
  long : String
  letter : Option Char := none
  value : OptionValue := .nothing
  /-- It may be given more than once. -/
  repeats : Bool := false
  deriving Repr

def OptionSpec.isValued (o : OptionSpec) : Bool :=
  o.value != .nothing

def OptionSpec.accepts (o : OptionSpec) (value : String) : Bool :=
  match o.value with
  | .nothing | .text => true
  | .path => !value.isEmpty
  | .word choices => value ∈ choices

/-- The options that were given, by long name, with their values, in order. -/
abbrev Occurrences := List (String × String)

/-- The word may be the value of the option in front of it. -/
def isOperand (word : String) : Bool :=
  match word.toList with
  | '-' :: _ :: _ => false
  | _ => true

/-- What an option word leaves open: nothing, or the value of an option that it ends in. -/
structure OptionWord where
  given : Occurrences
  open? : Option String := none

/-- The options of a word of letters behind one hyphen. Behind the letter of an option with a value
    the rest of the word is that value, after an equals sign or at once. -/
def readLetters (specs : List OptionSpec) : List Char → Option OptionWord
  | [] => some { given := [] }
  | c :: rest => do
    let o ← specs.find? (·.letter == some c)
    if o.isValued then
      match rest with
      | [] => some { given := [], open? := some o.long }
      | '=' :: value => some { given := [(o.long, String.ofList value)] }
      | value => some { given := [(o.long, String.ofList value)] }
    else
      let more ← readLetters specs rest
      some { more with given := (o.long, "") :: more.given }

/-- The option of a word behind two hyphens, with a value behind an equals sign or none. -/
def readLong (specs : List OptionSpec) (word : List Char) : Option OptionWord := do
  let name := String.ofList (word.takeWhile (· != '='))
  let o ← specs.find? (·.long == name)
  match word.dropWhile (· != '='), o.isValued with
  | [], true => some { given := [], open? := some name }
  | [], false => some { given := [(name, "")] }
  | _ :: value, true => some { given := [(name, String.ofList value)] }
  | _ :: _, false => none

def readOptionWord (specs : List OptionSpec) (word : String) : Option OptionWord :=
  match word.toList with
  | '-' :: '-' :: name => readLong specs name
  | '-' :: c :: rest => readLetters specs (c :: rest)
  | _ => none

/-- The options that words give. Two hyphens alone may end the words. -/
def readWords (specs : List OptionSpec) : List String → Option Occurrences
  | [] => some []
  | [word] =>
    if word == "--" then some []
    else
      match readOptionWord specs word with
      | some { given, open? := none } => some given
      | _ => none
  | word :: next :: rest => do
    let w ← readOptionWord specs word
    match w.open? with
    | none => return w.given ++ (← readWords specs (next :: rest))
    | some name =>
      if isOperand next then return w.given ++ (name, next) :: (← readWords specs rest) else none

def valuesOf (given : Occurrences) (long : String) : List String :=
  (given.filter (·.1 == long)).map (·.2)

/-- The option was given as often, and with such values, as it may be. -/
def OptionSpec.isMet (o : OptionSpec) (given : Occurrences) : Bool :=
  let values := valuesOf given o.long
  values.all o.accepts && (o.repeats || values.length ≤ 1)

/-- The options that words give, all of them as they may be. -/
def readOptions (specs : List OptionSpec) (words : List String) : Option Occurrences :=
  (readWords specs words).filter fun given => specs.all (·.isMet given)

/-! ## The two commands -/

structure GenerateRequest where
  files : List String
  includeDirs : List String := []
  outputDir : Option String := none
  config : Option String := none
  implicitConversion : Bool := false
  verbose : Bool := false
  deriving Repr

inductive ModelFormat where
  | json
  | yaml
  deriving DecidableEq, Repr

structure AnalyzeRequest where
  files : List String
  includeDirs : List String := []
  format : ModelFormat := .json
  /-- The subject whose companion is shown. -/
  printProxy : Option String := none
  config : Option String := none
  deriving Repr

inductive Command where
  | generate (request : GenerateRequest)
  | analyze (request : AnalyzeRequest)
  deriving Repr

def sharedOptions : List OptionSpec :=
  [{ long := "files", letter := some 'f', value := .path, repeats := true },
    { long := "include-dir", letter := some 'i', value := .path, repeats := true },
    { long := "config", value := .path }]

def GenerateRequest.options : List OptionSpec :=
  sharedOptions ++
    [{ long := "output", letter := some 'o', value := .path },
      { long := "implicit-conversion" },
      { long := "verbose", letter := some 'v' }]

def AnalyzeRequest.options : List OptionSpec :=
  sharedOptions ++
    [{ long := "format", value := .word ["json", "yaml"] },
      { long := "print-proxy", value := .text }]

/-- The files that a command works on. There has to be one. -/
def filesOf (given : Occurrences) : Option (List String) :=
  match valuesOf given "files" with
  | [] => none
  | files => some files

def GenerateRequest.ofWords? (words : List String) : Option GenerateRequest := do
  let given ← readOptions options words
  return {
    files := ← filesOf given
    includeDirs := valuesOf given "include-dir"
    outputDir := (valuesOf given "output").head?
    config := (valuesOf given "config").head?
    implicitConversion := !(valuesOf given "implicit-conversion").isEmpty
    verbose := !(valuesOf given "verbose").isEmpty }

def AnalyzeRequest.ofWords? (words : List String) : Option AnalyzeRequest := do
  let given ← readOptions options words
  return {
    files := ← filesOf given
    includeDirs := valuesOf given "include-dir"
    format := if valuesOf given "format" == ["yaml"] then .yaml else .json
    printProxy := (valuesOf given "print-proxy").head?
    config := (valuesOf given "config").head? }

def Command.ofWords? : List String → Option Command
  | "generate" :: words => (GenerateRequest.ofWords? words).map .generate
  | "analyze" :: words => (AnalyzeRequest.ofWords? words).map .analyze
  | _ => none

end Companion
