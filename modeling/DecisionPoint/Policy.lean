import DecisionPoint.Time.Instant

/-!
# Policies

A policy snapshot is one version of a policy set as it was loaded.  Its document is a value that
only the engine understands.
-/

set_option autoImplicit false

namespace DecisionPoint

def defaultCombiningAlgorithm : String :=
  "urn:oasis:names:tc:xacml:1.0:policy-combining-algorithm:first-applicable"

structure PolicyRef where
  policySetId : String
  version : String
deriving DecidableEq, Repr, Inhabited

namespace PolicyRef

def toJson (reference : PolicyRef) : Json :=
  .object [("policy_set_id", .string reference.policySetId), ("version", .string reference.version)]

structure Draft where
  policySetId : Option String
  version : Option String

open Json in
def record : Record Draft PolicyRef where
  title := "struct PolicyRef"
  blank := ⟨none, none⟩
  fields :=
    [field "policy_set_id" false (readString .json) fun d v => { d with policySetId := some v },
      field "version" false (readString .json) fun d v => { d with version := some v }]
  strict := false
  finish d := do
    let policySetId ← required "policy_set_id" d.policySetId
    let version ← required "version" d.version
    pure ⟨policySetId, version⟩

def read : Json.Reader PolicyRef :=
  record.read .json

end PolicyRef

/-- Reads any value that stands `level` arrays or objects deep; its members are sorted by name. -/
def readContent (level : Nat) : Json.Reader Json :=
  fun document =>
    if document.hasValueAt level then .ok document.canonical else .error .unreadable

/-- A policy as an administration point hands it out. -/
structure PolicyDocument where
  policySetId : String
  version : String
  combiningAlgorithm : String
  document : Json
deriving Inhabited

namespace PolicyDocument

def toJson (policy : PolicyDocument) : Json :=
  .object
    [("policy_set_id", .string policy.policySetId), ("version", .string policy.version),
      ("combining_algorithm", .string policy.combiningAlgorithm), ("document", policy.document)]

structure Draft where
  policySetId : Option String
  version : Option String
  combiningAlgorithm : Option String
  document : Option Json

open Json in
/-- Policy documents that stand `level` arrays or objects deep. -/
def record (level : Nat) : Record Draft PolicyDocument where
  title := "struct PolicyDocument"
  blank := ⟨none, none, none, none⟩
  fields :=
    [field "policy_set_id" false (readString .json) fun d v => { d with policySetId := some v },
      field "version" false (readString .json) fun d v => { d with version := some v },
      field "combining_algorithm" true (readString .json) fun d v =>
        { d with combiningAlgorithm := some v },
      field "document" true (readContent (level + 1)) fun d v => { d with document := some v }]
  strict := false
  finish d := do
    let policySetId ← required "policy_set_id" d.policySetId
    let version ← required "version" d.version
    pure ⟨policySetId, version, d.combiningAlgorithm.getD defaultCombiningAlgorithm,
      d.document.getD .null⟩

def read (level : Nat) : Json.Reader PolicyDocument :=
  (record level).read .json

end PolicyDocument

/-- One version of a policy set and when it was loaded. -/
structure PolicySnapshot where
  policySetId : String
  version : String
  combiningAlgorithm : String
  document : Json
  loadedAt : Instant
deriving Inhabited

namespace PolicySnapshot

def new (policySetId version : String) (loadedAt : Instant) : PolicySnapshot :=
  ⟨policySetId, version, defaultCombiningAlgorithm, .null, loadedAt⟩

def ofDocument (policy : PolicyDocument) (loadedAt : Instant) : PolicySnapshot :=
  ⟨policy.policySetId, policy.version, policy.combiningAlgorithm, policy.document, loadedAt⟩

def reference (snapshot : PolicySnapshot) : PolicyRef :=
  ⟨snapshot.policySetId, snapshot.version⟩

def toJson (snapshot : PolicySnapshot) : Json :=
  .object
    [("policy_set_id", .string snapshot.policySetId), ("version", .string snapshot.version),
      ("combining_algorithm", .string snapshot.combiningAlgorithm),
      ("document", snapshot.document), ("loaded_at", snapshot.loadedAt.toJson)]

structure Draft where
  policySetId : Option String
  version : Option String
  combiningAlgorithm : Option String
  document : Option Json
  loadedAt : Option Instant

open Json in
def record : Record Draft PolicySnapshot where
  title := "struct PolicySnapshot"
  blank := ⟨none, none, none, none, none⟩
  fields :=
    [field "policy_set_id" false (readString .json) fun d v => { d with policySetId := some v },
      field "version" false (readString .json) fun d v => { d with version := some v },
      field "combining_algorithm" false (readString .json) fun d v =>
        { d with combiningAlgorithm := some v },
      field "document" false (readContent 1) fun d v => { d with document := some v },
      field "loaded_at" false (Instant.read .json) fun d v => { d with loadedAt := some v }]
  strict := false
  finish d := do
    let policySetId ← required "policy_set_id" d.policySetId
    let version ← required "version" d.version
    let combiningAlgorithm ← required "combining_algorithm" d.combiningAlgorithm
    let document ← required "document" d.document
    let loadedAt ← required "loaded_at" d.loadedAt
    pure ⟨policySetId, version, combiningAlgorithm, document, loadedAt⟩

def read : Json.Reader PolicySnapshot :=
  record.read .json

end PolicySnapshot

end DecisionPoint
