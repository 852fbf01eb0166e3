import DecisionPoint.Configuration.Layer
import DecisionPoint.Json.Access
import DecisionPoint.Text.Hex

/-!
# Layers in documents

The layers of a configuration, the environment, and the bytes that documents hold.
-/

set_option autoImplicit false

namespace DecisionPoint.Rehearsal

open Json

/-- The bytes in a document: those of a text member, or given by hexadecimal digits. -/
def bytesAt (document : Json) (name : String) : Lookup ByteArray := do
  match ← optional asText document "hex" with
  | some digits =>
    match Text.hexBytes digits.toList with
    | some found => pure ⟨found.toArray⟩
    | none => .error "a digit is missing"
  | none => pure ((← optional asText document name).getD "").toUTF8

def fileContentOf (document : Json) : Lookup FileContent := do
  if document.flagAt "missing" then pure .missing
  else if document.flagAt "directory" then pure .directory
  else pure (.bytes (← bytesAt document "content"))

def layerOf (document : Json) : Lookup Layer := do
  match ← document.textAt "do" with
  | "defaults" => pure (.preset .default)
  | "development" => pure (.preset .development)
  | "production" => pure (.preset .production)
  | "string" => pure (.text (← document.textAt "content") (← document.textAt "format"))
  | "prefix" => pure (.variables (← document.textAt "prefix"))
  | "dotenv" => pure (.dotenv (← document.textAt "content"))
  | "file" => pure (.file (← document.textAt "name") (← fileContentOf document))
  | "optional_file" => pure (.optionalFile (← document.textAt "name") (← fileContentOf document))
  | other => .error ("unknown layer " ++ other)

def variableOf : Json → Lookup Variable
  | .array [name, value] => do pure ⟨← name.asText, ← value.asText⟩
  | _ => .error "a variable has two parts"

def environmentOf (document : Json) : Lookup Environment := do
  pure (.ofList (← (← document.listAt "env").mapM variableOf))

def configurationFaultOf (document : Json) : Lookup ConfigurationFault := do
  let text (name : String) : Lookup String := do
    pure ((← optional asText document name).getD "")
  match ← document.textAt "type" with
  | "FileNotFound" => pure (.fileNotFound (← text "path"))
  | "ReadError" => pure (.unreadableFile (← text "path"))
  | "InvalidValue" => pure (.invalidValue (← text "field") (← text "reason"))
  | "MissingField" => pure (.missingField (← text "field"))
  | "EnvParseError" => pure (.invalidVariable (← text "field") (← text "reason"))
  | "ValidationError" => pure (.invalid (← text "message"))
  | "InvalidConfig" => pure (.refused (← text "message"))
  | other => .error ("unknown fault " ++ other)

end DecisionPoint.Rehearsal
