import DecisionPoint.Configuration.Dotenv
import DecisionPoint.Configuration.Override
import DecisionPoint.Configuration.Validation
import DecisionPoint.Json.Parser
import DecisionPoint.Toml.Parser

/-!
# Loading a configuration in layers

A loader holds a configuration, the environment, and perhaps the first part of the names of
variables that may override fields.  Presets, texts and files replace the configuration; the
overrides come last, and then the configuration is validated.
-/

set_option autoImplicit false

namespace DecisionPoint

inductive FileContent where
  | missing
  | directory
  | bytes (content : ByteArray)
deriving Inhabited

structure Loader where
  configuration : Configuration
  variablePart : Option String
  environment : Environment
deriving Inhabited

namespace Loader

def new (environment : Environment) : Loader :=
  ⟨.default, none, environment⟩

def withConfiguration (loader : Loader) (configuration : Configuration) : Loader :=
  { loader with configuration := configuration }

/-- Why a text does not give a configuration, unless its format is unknown. -/
inductive TextFault where
  | unknownFormat
  | text (fault : ConfigurationFault)
deriving DecidableEq, Repr

def ofToml (content : String) : Except Json.DecodeError Configuration :=
  match Toml.parse content with
  | none => .error .malformed
  | some document => (Configuration.read .toml document).mapError .mismatch

def ofText (content format : String) : Except TextFault Configuration :=
  match format with
  | "toml" => (ofToml content).mapError (.text ∘ .notToml)
  | "json" => (Json.decode (Configuration.read .json) content).mapError (.text ∘ .notJson)
  | _ => .error .unknownFormat

def withText (loader : Loader) (content format : String) : Except ConfigurationFault Loader :=
  let format := Text.lowercase format
  match ofText content format with
  | .ok configuration => .ok (loader.withConfiguration configuration)
  | .error (.text fault) => .error fault
  | .error .unknownFormat => .error (.invalid ("unsupported configuration format: " ++ format))

/-- The part of a file name behind its last point.  A point at the start does not count. -/
def extensionOf (path : String) : String :=
  let name := (path.toList.reverse.takeWhile (· ≠ '/')).reverse
  let ending := name.reverse.takeWhile (· ≠ '.')
  if name.length ≤ ending.length + 1 then "" else String.ofList ending.reverse

def withFile (loader : Loader) (path : String) : FileContent → Except ConfigurationFault Loader
  | .missing => .error (.fileNotFound path)
  | .directory => .error (.unreadableFile path)
  | .bytes content =>
    match String.fromUTF8? content with
    | none => .error (.unreadableFile path)
    | some content =>
      match ofText content (Text.lowercase (extensionOf path)) with
      | .ok configuration => .ok (loader.withConfiguration configuration)
      | .error (.text fault) => .error fault
      | .error .unknownFormat =>
        .error (.invalid ("unsupported configuration file format: " ++ path))

def withOptionalFile (loader : Loader) (path : String) (content : FileContent) :
    Except ConfigurationFault Loader :=
  match content with
  | .missing => .ok loader
  | content => loader.withFile path content

/-- Lets variables override fields whose names begin with a part, taken in capitals. -/
def withVariables (loader : Loader) (part : String) : Loader :=
  { loader with variablePart := some (Text.uppercase part) }

def withDotenv (loader : Loader) (content : String) : Loader :=
  { loader with environment := Dotenv.load loader.environment content }

def overridden (loader : Loader) : Except ConfigurationFault Configuration :=
  match loader.variablePart with
  | none => .ok loader.configuration
  | some part => loader.configuration.overrideAll part loader.environment.items

def load (loader : Loader) : Except ConfigurationFault Configuration := do
  let configuration ← loader.overridden
  configuration.validate
  pure configuration

def loadUnvalidated (loader : Loader) : Configuration :=
  loader.configuration

end Loader

end DecisionPoint
