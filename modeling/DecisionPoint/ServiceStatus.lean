import DecisionPoint.Policy

/-!
# The status of the service

Counters of what the service has done and the policy in effect, and the report made of them.
-/

set_option autoImplicit false

namespace DecisionPoint

structure PolicyInfo where
  policySetId : String
  version : String
  loadedAt : Instant
deriving DecidableEq, Repr, Inhabited

namespace PolicyInfo

def ofSnapshot (snapshot : PolicySnapshot) : PolicyInfo :=
  ⟨snapshot.policySetId, snapshot.version, snapshot.loadedAt⟩

def toJson (info : PolicyInfo) : Json :=
  .object
    [("policy_set_id", .string info.policySetId), ("version", .string info.version),
      ("loaded_at", info.loadedAt.toJson)]

structure Draft where
  policySetId : Option String
  version : Option String
  loadedAt : Option Instant

open Json in
def record : Record Draft PolicyInfo where
  title := "struct PolicyInfo"
  blank := ⟨none, none, none⟩
  fields :=
    [field "policy_set_id" false (readString .json) fun d v => { d with policySetId := some v },
      field "version" false (readString .json) fun d v => { d with version := some v },
      field "loaded_at" false (Instant.read .json) fun d v => { d with loadedAt := some v }]
  strict := false
  finish d := do
    let policySetId ← required "policy_set_id" d.policySetId
    let version ← required "version" d.version
    let loadedAt ← required "loaded_at" d.loadedAt
    pure ⟨policySetId, version, loadedAt⟩

def read : Json.Reader PolicyInfo :=
  record.read .json

end PolicyInfo

structure StatusReport where
  service : String
  version : String
  status : String
  startTime : Instant
  totalRequests : UInt64
  totalCompletedRequests : UInt64
  totalRequestErrors : UInt64
  admissionRejections : UInt64
  policy : Option PolicyInfo
deriving DecidableEq, Inhabited

namespace StatusReport

def lines (report : StatusReport) : List String :=
  ["service: " ++ report.service, "version: " ++ report.version, "status: " ++ report.status,
    "start_time: " ++ toString report.startTime.toMillis,
    "total_requests: " ++ toString report.totalRequests.toNat,
    "total_completed_requests: " ++ toString report.totalCompletedRequests.toNat,
    "total_request_errors: " ++ toString report.totalRequestErrors.toNat,
    "admission_rejections: " ++ toString report.admissionRejections.toNat] ++
    match report.policy with
    | some info =>
      ["policy_load_instant: " ++ info.loadedAt.text .offset,
        "current_policy: " ++ info.policySetId, "current_policy_version: " ++ info.version]
    | none => ["policy_load_instant: ", "current_policy: ", "current_policy_version: "]

def text (report : StatusReport) : String :=
  String.join (report.lines.map (· ++ "\n"))

def toJson (report : StatusReport) : Json :=
  .object
    [("service", .string report.service), ("version", .string report.version),
      ("status", .string report.status), ("start_time", report.startTime.toJson),
      ("total_requests", Json.nat report.totalRequests.toNat),
      ("total_completed_requests", Json.nat report.totalCompletedRequests.toNat),
      ("total_request_errors", Json.nat report.totalRequestErrors.toNat),
      ("admission_rejections", Json.nat report.admissionRejections.toNat),
      ("policy", Json.option PolicyInfo.toJson report.policy)]

structure Draft where
  service : Option String
  version : Option String
  status : Option String
  startTime : Option Instant
  totalRequests : Option UInt64
  totalCompletedRequests : Option UInt64
  totalRequestErrors : Option UInt64
  admissionRejections : Option UInt64
  policy : Option (Option PolicyInfo)

open Json in
def record : Record Draft StatusReport where
  title := "struct StatusReport"
  blank := ⟨none, none, none, none, none, none, none, none, none⟩
  fields :=
    [field "service" false (readString .json) fun d v => { d with service := some v },
      field "version" false (readString .json) fun d v => { d with version := some v },
      field "status" false (readString .json) fun d v => { d with status := some v },
      field "start_time" false (Instant.read .json) fun d v => { d with startTime := some v },
      field "total_requests" false (readWord .json "u64") fun d v =>
        { d with totalRequests := some v },
      field "total_completed_requests" false (readWord .json "u64") fun d v =>
        { d with totalCompletedRequests := some v },
      field "total_request_errors" false (readWord .json "u64") fun d v =>
        { d with totalRequestErrors := some v },
      field "admission_rejections" false (readWord .json "u64") fun d v =>
        { d with admissionRejections := some v },
      field "policy" false (readOption PolicyInfo.read) fun d v => { d with policy := some v }]
  strict := false
  finish d := do
    let service ← required "service" d.service
    let version ← required "version" d.version
    let status ← required "status" d.status
    let startTime ← required "start_time" d.startTime
    let totalRequests ← required "total_requests" d.totalRequests
    let totalCompletedRequests ← required "total_completed_requests" d.totalCompletedRequests
    let totalRequestErrors ← required "total_request_errors" d.totalRequestErrors
    let admissionRejections ← required "admission_rejections" d.admissionRejections
    pure ⟨service, version, status, startTime, totalRequests, totalCompletedRequests,
      totalRequestErrors, admissionRejections, d.policy.join⟩

def read : Json.Reader StatusReport :=
  record.read .json

end StatusReport

structure ServiceStatus where
  service : String
  version : String
  startedAt : Instant
  totalRequests : Nat
  pipelineErrors : Nat
  transportErrors : Nat
  admissionRejections : Nat
  policy : Option PolicyInfo
deriving DecidableEq, Inhabited

namespace ServiceStatus

def new (service version : String) (startedAt : Instant) : ServiceStatus :=
  ⟨service, version, startedAt, 0, 0, 0, 0, none⟩

def recordRequest (status : ServiceStatus) (errored : Bool) : ServiceStatus :=
  { status with
    totalRequests := status.totalRequests + 1
    pipelineErrors := if errored then status.pipelineErrors + 1 else status.pipelineErrors }

def recordRequestError (status : ServiceStatus) : ServiceStatus :=
  { status with transportErrors := status.transportErrors + 1 }

def recordRejection (status : ServiceStatus) : ServiceStatus :=
  { status with admissionRejections := status.admissionRejections + 1 }

def updatePolicy (status : ServiceStatus) (snapshot : PolicySnapshot) : ServiceStatus :=
  { status with policy := some (.ofSnapshot snapshot) }

/-- All errors, inside and outside of evaluations. -/
def totalRequestErrors (status : ServiceStatus) : Nat :=
  status.pipelineErrors + status.transportErrors

def report (status : ServiceStatus) : StatusReport :=
  ⟨status.service, status.version, "OK", status.startedAt, .ofNat status.totalRequests,
    .ofNat (status.totalRequests - status.pipelineErrors), .ofNat status.totalRequestErrors,
    .ofNat status.admissionRejections, status.policy⟩

end ServiceStatus

end DecisionPoint
