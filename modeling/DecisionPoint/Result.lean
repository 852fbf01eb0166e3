import DecisionPoint.Outcome
import DecisionPoint.Policy

/-!
# Results

The result of a request names the stage that it reached.  A failure at any stage makes the
outcome indeterminate.
-/

set_option autoImplicit false

namespace DecisionPoint

/-- The stages of an evaluation, in order. -/
inductive Stage where
  | received
  | policyResolved
  | enriched
  | evaluated
  | obligationsApplied
  | resultReady
deriving DecidableEq, Repr, Inhabited

namespace Stage

def name : Stage → String
  | received => "Received"
  | policyResolved => "PolicyResolved"
  | enriched => "Enriched"
  | evaluated => "Evaluated"
  | obligationsApplied => "ObligationsApplied"
  | resultReady => "ResultReady"

def choices : List (String × Stage) :=
  [received, policyResolved, enriched, evaluated, obligationsApplied, resultReady].map fun s =>
    (s.name, s)

def read : Json.Reader Stage :=
  Json.readChoice .json choices

end Stage

inductive StageFailure where
  | policyUnavailable
  | enrichment (pointId reason : String)
  | evaluation (reason : String)
  | obligation (obligationId reason : String)
deriving DecidableEq, Repr

namespace StageFailure

def message : StageFailure → String
  | policyUnavailable => "no policy is available by which to evaluate the request"
  | enrichment pointId reason =>
    "policy information point " ++ pointId ++ " failed: " ++ reason
  | evaluation reason => "error evaluating policy: " ++ reason
  | obligation obligationId reason =>
    "obligation " ++ obligationId ++ " could not be fulfilled: " ++ reason

def stage : StageFailure → Stage
  | policyUnavailable => .policyResolved
  | enrichment _ _ => .enriched
  | evaluation _ => .evaluated
  | obligation _ _ => .obligationsApplied

def kind : StageFailure → String
  | policyUnavailable => "policy_unavailable"
  | enrichment _ _ => "enrichment"
  | evaluation _ => "evaluation"
  | obligation _ _ => "obligation"

def toJson : StageFailure → Json
  | policyUnavailable => .string "PolicyUnavailable"
  | enrichment pointId reason =>
    .object [("Enrichment", .object [("pip_id", .string pointId), ("reason", .string reason)])]
  | evaluation reason => .object [("Evaluation", .string reason)]
  | obligation obligationId reason =>
    .object
      [("Obligation",
        .object [("obligation_id", .string obligationId), ("reason", .string reason)])]

structure Draft where
  subject : Option String
  reason : Option String

open Json in
def record (title subject : String) (make : String → String → StageFailure) :
    Record Draft StageFailure where
  title := "struct variant StageFailure::" ++ title
  blank := ⟨none, none⟩
  fields :=
    [field subject false (readString .json) fun d v => { d with subject := some v },
      field "reason" false (readString .json) fun d v => { d with reason := some v }]
  strict := false
  finish d := do
    let id ← required subject d.subject
    let reason ← required "reason" d.reason
    pure (make id reason)

open Json in
def variants : List (String × Variant StageFailure) :=
  [("PolicyUnavailable", .plain policyUnavailable),
    ("Enrichment",
      .holding "struct variant" ((record "Enrichment" "pip_id" enrichment).read .json)),
    ("Evaluation", .holding "newtype variant" fun v => (readString .json v).map evaluation),
    ("Obligation",
      .holding "struct variant" ((record "Obligation" "obligation_id" obligation).read .json))]

def read : Json.Reader StageFailure :=
  Json.readVariant .json variants

end StageFailure

structure FinalResult where
  requestId : String
  requesterId : Option String
  responseId : String
  outcome : Outcome
  policy : Option PolicyRef
  appliedObligations : List String
  stage : Stage
  failure : Option StageFailure
  completedAt : Instant
deriving DecidableEq, Inhabited

namespace FinalResult

def isError (result : FinalResult) : Bool :=
  result.failure.isSome

def toJson (result : FinalResult) : Json :=
  .object
    [("request_id", .string result.requestId),
      ("requester_id", Json.option .string result.requesterId),
      ("response_id", .string result.responseId), ("outcome", result.outcome.toJson),
      ("policy", Json.option PolicyRef.toJson result.policy),
      ("applied_obligations", Json.strings result.appliedObligations),
      ("stage", .string result.stage.name),
      ("failure", Json.option StageFailure.toJson result.failure),
      ("completed_at", result.completedAt.toJson)]

structure Draft where
  requestId : Option String
  requesterId : Option (Option String)
  responseId : Option String
  outcome : Option Outcome
  policy : Option (Option PolicyRef)
  appliedObligations : Option (List String)
  stage : Option Stage
  failure : Option (Option StageFailure)
  completedAt : Option Instant

open Json in
def record : Record Draft FinalResult where
  title := "struct FinalResult"
  blank := ⟨none, none, none, none, none, none, none, none, none⟩
  fields :=
    [field "request_id" false (readString .json) fun d v => { d with requestId := some v },
      field "requester_id" false (readOption (readString .json)) fun d v =>
        { d with requesterId := some v },
      field "response_id" false (readString .json) fun d v => { d with responseId := some v },
      field "outcome" false Outcome.read fun d v => { d with outcome := some v },
      field "policy" false (readOption PolicyRef.read) fun d v => { d with policy := some v },
      field "applied_obligations" false (readList .json (readString .json)) fun d v =>
        { d with appliedObligations := some v },
      field "stage" false Stage.read fun d v => { d with stage := some v },
      field "failure" false (readOption StageFailure.read) fun d v => { d with failure := some v },
      field "completed_at" false (Instant.read .json) fun d v => { d with completedAt := some v }]
  strict := false
  finish d := do
    let requestId ← required "request_id" d.requestId
    let responseId ← required "response_id" d.responseId
    let outcome ← required "outcome" d.outcome
    let appliedObligations ← required "applied_obligations" d.appliedObligations
    let stage ← required "stage" d.stage
    let completedAt ← required "completed_at" d.completedAt
    pure ⟨requestId, d.requesterId.join, responseId, outcome, d.policy.join, appliedObligations,
      stage, d.failure.join, completedAt⟩

def read : Json.Reader FinalResult :=
  record.read .json

end FinalResult

end DecisionPoint
