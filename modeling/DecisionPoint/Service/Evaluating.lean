import DecisionPoint.Identifier
import DecisionPoint.Service.Basic

/-!
# Evaluating requests in the service

An evaluation begins with the snapshot in effect and keeps it.  When it ends its result is recorded.
-/

set_option autoImplicit false

namespace DecisionPoint

/-- An evaluation that waits for an information point. -/
structure Evaluation where
  occasion : Occasion
  policy : PolicySnapshot
  wait : PointWait
deriving Inhabited

namespace Service

def complete (service : Service) (now : Nat) (occasion : Occasion)
    (policy : Option PolicySnapshot) (verdict : Verdict) : Service × FinalResult :=
  let (number, service) := service.freshNumber
  let result := occasion.result policy (freshIdentifier now number) (.ofMillis now) verdict
  let journal :=
    match result.failure with
    | some failure => service.journal.evaluationFailed failure
    | none => service.journal
  ({ service with journal := journal.completed result }, result)

def proceed (service : Service) (now : Nat) (occasion : Occasion) (policy : PolicySnapshot)
    (work : Pipeline.Enriching) : Service × Progress FinalResult Evaluation :=
  let service := service.called work.calls
  match work.progress with
  | .waiting wait => (service, .waiting ⟨occasion, policy, wait⟩)
  | .done (.error verdict) =>
    let (service, result) := service.complete now occasion (some policy) verdict
    (service, .done result)
  | .done (.ok request) =>
    let conclusion := service.pipeline.conclude service.registry policy request
    let service := service.called conclusion.calls
    let service :=
      { service with journal := service.journal.obligationsFulfilled conclusion.fulfilled }
    let (service, result) := service.complete now occasion (some policy) conclusion.verdict
    (service, .done result)

def evaluate (service : Service) (now : Nat) (request : Request) :
    Service × Progress FinalResult Evaluation :=
  match service.cache.current with
  | none =>
    let (service, result) :=
      service.complete now (.of request) none (.failed .policyUnavailable none)
    (service, .done result)
  | some policy =>
    service.proceed now (.of request) policy
      (Pipeline.enrichBy service.pipeline.timeout now service.pipeline.points request)

def resumeEvaluation (service : Service) (now : Nat) (evaluation : Evaluation) :
    Service × Progress FinalResult Evaluation :=
  service.proceed now evaluation.occasion evaluation.policy
    (Pipeline.resumeEnriching service.pipeline.timeout now evaluation.wait)

end Service

end DecisionPoint
