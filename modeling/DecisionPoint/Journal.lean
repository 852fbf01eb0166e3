import DecisionPoint.Audit
import DecisionPoint.ServiceStatus
import DecisionPoint.Telemetry.Metrics

/-!
# What the service records about itself

Status counters, metrics and audit records, and the occasions on which they change.
-/

set_option autoImplicit false

namespace DecisionPoint

structure Journal where
  status : ServiceStatus
  evaluationStatus : Option ServiceStatus
  metrics : Metrics
  audit : List AuditRecord
deriving Inhabited

namespace Journal

def start (status : ServiceStatus) : Journal :=
  ⟨status, none, .empty, []⟩

def counted (journal : Journal) : ServiceStatus :=
  journal.evaluationStatus.getD journal.status

def countEvaluation (journal : Journal) (errored : Bool) : Journal :=
  match journal.evaluationStatus with
  | some status => { journal with evaluationStatus := some (status.recordRequest errored) }
  | none => { journal with status := journal.status.recordRequest errored }

def obligationsFulfilled (journal : Journal) (obligationIds : List String) : Journal :=
  { journal with metrics := obligationIds.foldl Metrics.recordObligation journal.metrics }

def evaluationFailed (journal : Journal) (failure : StageFailure) : Journal :=
  { journal with metrics := journal.metrics.recordError failure.kind }

def completed (journal : Journal) (result : FinalResult) : Journal :=
  let journal := journal.countEvaluation result.isError
  { journal with
    metrics := journal.metrics.recordDecision result.outcome.decision.name
    audit := journal.audit ++ [AuditRecord.ofResult result] }

/-- Records a request that was not admitted; the status is that of the evaluations. -/
def rejected (journal : Journal) : Journal :=
  let metrics := journal.metrics.recordRejection
  match journal.evaluationStatus with
  | some status => { journal with evaluationStatus := some status.recordRejection, metrics }
  | none => { journal with status := journal.status.recordRejection, metrics }

/-- Records an error of a kind outside of evaluations. -/
def transportFailed (journal : Journal) (kind : String) : Journal :=
  { journal with
    status := journal.status.recordRequestError
    metrics := journal.metrics.recordError kind }

def policyLoaded (journal : Journal) (snapshot : PolicySnapshot) : Journal :=
  { journal with status := journal.status.updatePolicy snapshot }

def refreshed (journal : Journal) (succeeded : Bool) : Journal :=
  { journal with metrics := journal.metrics.recordRefresh succeeded }

end Journal

end DecisionPoint
