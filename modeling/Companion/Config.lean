import Companion.Options
import Companion.Data.Fields
import Companion.Files.Basic
import Companion.Text.Blank
import Companion.Yaml.Outline

/-!
# Configurations as documents

A configuration is written as a block document of three optional fields and no others. A blank text
is a configuration that sets nothing.
-/

namespace Companion

inductive ConfigError where
  | io (path : String) (cause : IoFailure)
  /-- The text is no configuration. The message ends where the words of the reader about it would
      follow. -/
  | malformed (origin : String)
  /-- The text has a scalar that does not fit. -/
  | overflow
  | options (refusal : OptionsError)
  deriving DecidableEq, Repr

namespace ConfigError

def message : ConfigError → String
  | .io path cause => "failed to read config '" ++ path ++ "': " ++ cause.message
  | .malformed origin => "failed to parse config '" ++ origin ++ "'"
  | .overflow => Yaml.Fault.overflowMessage
  | .options refusal => refusal.message

def cause? : ConfigError → Option IoFailure
  | .io _ cause => some cause
  | _ => none

/-- The error that a fault in a text from somewhere is. -/
def ofFault (origin : String) : Yaml.Fault → ConfigError
  | .malformed => .malformed origin
  | .overflow => .overflow

end ConfigError

namespace Config

def outline : Yaml.Outline :=
  .fields [("output-dir", .text), ("implicit-conversion", .text), ("proxy-suffix", .text)] true

def decode? (v : Value) : Option Config := do
  let fields ← v.fields? ["output-dir", "implicit-conversion", "proxy-suffix"]
  return {
    outputDir := ← nullable fields "output-dir" Value.text?
    implicitConversion := ← nullable fields "implicit-conversion" Value.flag?
    proxySuffix := ← nullable fields "proxy-suffix" Value.text? }

def ofText (text : String) : Except Yaml.Fault Config :=
  if text.toList.all Text.isBlank then .ok {} else Yaml.load outline decode? text

def parse (origin text : String) : Except ConfigError Config :=
  (ofText text).mapError (.ofFault origin)

def load {m : Type → Type} [Monad m] [Files m] (path : String) : m (Except ConfigError Config) := do
  match ← Files.read path with
  | .ok text => return parse path text
  | .error cause => return .error (.io path cause)

end Config

end Companion
