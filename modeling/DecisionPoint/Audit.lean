import DecisionPoint.Result

/-!
# Audit records

Each evaluated request leaves one line: its fields between bars, absent ones empty.
-/

set_option autoImplicit false

namespace DecisionPoint

structure AuditRecord where
  timestampMillis : Int64
  requesterId : Option String
  requestId : String
  policyId : Option String
  policyVersion : Option String
  decision : Decision
  responseId : String
deriving DecidableEq, Inhabited

namespace AuditRecord

def ofResult (result : FinalResult) : AuditRecord :=
  ⟨Int64.ofInt result.completedAt.toMillis, result.requesterId, result.requestId,
    result.policy.map PolicyRef.policySetId, result.policy.map PolicyRef.version,
    result.outcome.decision, result.responseId⟩

def columns (record : AuditRecord) : List String :=
  [toString record.timestampMillis.toInt, record.requesterId.getD "", record.requestId,
    record.policyId.getD "", record.policyVersion.getD "", record.decision.name,
    record.responseId]

def line (record : AuditRecord) : String :=
  String.join (record.columns.map (· ++ "|"))

def toJson (record : AuditRecord) : Json :=
  .object
    [("timestamp_ms", Json.int record.timestampMillis.toInt),
      ("requester_id", Json.option .string record.requesterId),
      ("request_id", .string record.requestId),
      ("policy_id", Json.option .string record.policyId),
      ("policy_version", Json.option .string record.policyVersion),
      ("decision", .string record.decision.name), ("response_id", .string record.responseId)]

structure Draft where
  timestampMillis : Option Int64
  requesterId : Option (Option String)
  requestId : Option String
  policyId : Option (Option String)
  policyVersion : Option (Option String)
  decision : Option Decision
  responseId : Option String

open Json in
def record : Record Draft AuditRecord where
  title := "struct AuditRecord"
  blank := ⟨none, none, none, none, none, none, none⟩
  fields :=
    [field "timestamp_ms" false (readSigned .json) fun d v => { d with timestampMillis := some v },
      field "requester_id" false (readOption (readString .json)) fun d v =>
        { d with requesterId := some v },
      field "request_id" false (readString .json) fun d v => { d with requestId := some v },
      field "policy_id" false (readOption (readString .json)) fun d v =>
        { d with policyId := some v },
      field "policy_version" false (readOption (readString .json)) fun d v =>
        { d with policyVersion := some v },
      field "decision" false Decision.read fun d v => { d with decision := some v },
      field "response_id" false (readString .json) fun d v => { d with responseId := some v }]
  strict := false
  finish d := do
    let timestampMillis ← required "timestamp_ms" d.timestampMillis
    let requestId ← required "request_id" d.requestId
    let decision ← required "decision" d.decision
    let responseId ← required "response_id" d.responseId
    pure ⟨timestampMillis, d.requesterId.join, requestId, d.policyId.join, d.policyVersion.join,
      decision, responseId⟩

def read : Json.Reader AuditRecord :=
  record.read .json

end AuditRecord

end DecisionPoint
