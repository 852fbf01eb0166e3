import DecisionPoint.Configuration.Loader

/-!
# Layers of a configuration

What can be asked of a loader, one layer after another.  The first layer that fails ends the
loading.
-/

set_option autoImplicit false

namespace DecisionPoint

inductive Layer where
  | preset (configuration : Configuration)
  | text (content format : String)
  | file (path : String) (content : FileContent)
  | optionalFile (path : String) (content : FileContent)
  | variables (part : String)
  | dotenv (content : String)
deriving Inhabited

namespace Loader

def add (loader : Loader) : Layer → Except ConfigurationFault Loader
  | .preset configuration => .ok (loader.withConfiguration configuration)
  | .text content format => loader.withText content format
  | .file path content => loader.withFile path content
  | .optionalFile path content => loader.withOptionalFile path content
  | .variables part => .ok (loader.withVariables part)
  | .dotenv content => .ok (loader.withDotenv content)

def addAll (loader : Loader) (layers : List Layer) : Except ConfigurationFault Loader :=
  layers.foldlM add loader

end Loader

end DecisionPoint
