import Companion.Identifier
import Companion.Data.Value

/-!
# Options

What may be chosen about the generated text, and the layers that choose it: the defaults, then a
configuration, then the command line. A configuration sets what it names and leaves the rest.
-/

namespace Companion

/-- The choices that generated text depends on. -/
structure Options where
  implicitConversion : Bool := false
  proxySuffix : String := "Proxy"
  deriving DecidableEq, Repr

def Options.encode (o : Options) : Value :=
  .ofFields [("implicit_conversion", .flag o.implicitConversion), ("proxy_suffix", .text o.proxySuffix)]

/-- The contents of a configuration. Everything in it is optional. -/
structure Config where
  outputDir : Option String := none
  implicitConversion : Option Bool := none
  proxySuffix : Option String := none
  deriving DecidableEq, Repr

inductive OptionsError where
  /-- The suffix turns no identifier into one. -/
  | invalidSuffix (suffix : String)
  deriving DecidableEq, Repr

def OptionsError.message : OptionsError → String
  | .invalidSuffix suffix => "proxy suffix '" ++ suffix ++ "' is not a valid identifier suffix"

/-- Refuses a suffix that may not follow an identifier. -/
def validateSuffix (suffix : String) : Except OptionsError Unit :=
  if Identifier.isSuffix suffix then .ok () else .error (.invalidSuffix suffix)

/-- Lays a configuration over options: what the options are afterwards, and whether the configuration
    was refused. -/
def Config.apply (c : Config) (o : Options) : Options × Except OptionsError Unit :=
  -- The conversion is set before the suffix is looked at, and stays set if the suffix is refused.
  let o := { o with implicitConversion := c.implicitConversion.getD o.implicitConversion }
  match c.proxySuffix with
  | none => (o, .ok ())
  | some suffix =>
    match validateSuffix suffix with
    | .error e => (o, .error e)
    | .ok () => ({ o with proxySuffix := suffix }, .ok ())

/-- The options of a run: the defaults under the configuration under the flag. -/
def Options.resolve (config : Option Config) (implicitConversion : Bool) :
    Except OptionsError Options := do
  let o ← match config with
    | none => pure {}
    | some c =>
      let (o, outcome) := c.apply {}
      outcome
      pure o
  let o := { o with implicitConversion := o.implicitConversion || implicitConversion }
  validateSuffix o.proxySuffix
  return o

end Companion
