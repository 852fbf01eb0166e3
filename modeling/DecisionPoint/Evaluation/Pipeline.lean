import DecisionPoint.Evaluation.Call
import DecisionPoint.Evaluation.Engine
import DecisionPoint.Obligation.Registry
import DecisionPoint.Result

/-!
# The evaluation of a request

A request is enriched by the information points in order, decided by the engine, and its
obligations are fulfilled.  The first failure ends the evaluation.  The policy is the one that was
in effect when the evaluation began.  An evaluation waits only where an information point pauses.
-/

set_option autoImplicit false

namespace DecisionPoint

/-- The fixed parts of evaluations. -/
structure Pipeline where
  engine : Engine
  points : List Point
  timeout : Option Span
deriving Inhabited

/-- What an evaluation comes to. -/
inductive Verdict where
  | decided (outcome : Outcome) (applied : List String)
  | failed (failure : StageFailure) (resourceId : Option String)
deriving DecidableEq, Inhabited

/-- A call of an information point that has not ended yet. -/
structure PointWait where
  point : Point
  later : List Point
  enrichment : Enrichment
  script : Script
  resumesAt : Option Nat
  deadline : Option Nat
  limit : Span
deriving Inhabited

def PointWait.wake (wait : PointWait) : Option Nat :=
  earlier wait.resumesAt wait.deadline

def pointFailure (point : Point) (fault : InformationFault) (request : Request) : Verdict :=
  .failed (.enrichment point.id fault.message) request.resourceId?

structure Work (α φ : Type) where
  calls : List Call
  progress : Progress α φ
deriving Inhabited

namespace Pipeline

/-- The enrichment of a request: the enriched request, or the failure of a point. -/
abbrev Enriching : Type := Work (Except Verdict Request) PointWait

/-- Asks points in order, from a time on. -/
def enrichBy (timeout : Option Span) (now : Nat) : List Point → Request → Enriching
  | [], request => ⟨[], .done (.ok request)⟩
  | point :: later, request =>
    let call := Call.enrich point request
    match point.enrich.run (.start request) now with
    | (enrichment, .done .succeeded) =>
      let rest := enrichBy timeout now later enrichment.request
      ⟨call :: rest.calls, rest.progress⟩
    | (enrichment, .done (.failed fault)) =>
      ⟨[call], .done (.error (pointFailure point fault enrichment.request))⟩
    | (enrichment, .done .panicked) =>
      ⟨[call], .done (.error (pointFailure point panic enrichment.request))⟩
    | (enrichment, .waiting (resumesAt, script)) =>
      let deadline := timeout.map fun limit => now + limit.millis
      let limit := timeout.getD default
      if hasCome now deadline then
        ⟨[call], .done (.error (pointFailure point (.timeout limit) enrichment.request))⟩
      else ⟨[call], .waiting ⟨point, later, enrichment, script, resumesAt, deadline, limit⟩⟩
where
  panic : InformationFault := .failed "policy information point panicked"

/-- Goes on with an enrichment.  What a point does no later than its deadline counts; what it has
added counts in any case. -/
def resumeEnriching (timeout : Option Span) (now : Nat) (wait : PointWait) : Enriching :=
  let (enrichment, progress) :=
    if hasCome now wait.resumesAt then wait.script.run wait.enrichment now
    else (wait.enrichment, .waiting (wait.resumesAt, wait.script))
  match progress with
  | .done .succeeded => enrichBy timeout now wait.later enrichment.request
  | .done (.failed fault) => ⟨[], .done (.error (pointFailure wait.point fault enrichment.request))⟩
  | .done .panicked =>
    ⟨[], .done (.error (pointFailure wait.point enrichBy.panic enrichment.request))⟩
  | .waiting (resumesAt, script) =>
    if hasCome now wait.deadline then
      ⟨[], .done (.error (pointFailure wait.point (.timeout wait.limit) enrichment.request))⟩
    else
      ⟨[], .waiting
        { wait with enrichment := enrichment, script := script, resumesAt := resumesAt }⟩

/-- What the engine and the handlers make of an enriched request. -/
structure Conclusion where
  calls : List Call
  /-- The obligations that were fulfilled, also by an evaluation that fails in the end. -/
  fulfilled : List String
  verdict : Verdict
deriving Inhabited

/-- The outcome with the resource that the request names, if the engine names none. -/
def fillResource (outcome : Outcome) (resourceId : Option String) : Outcome :=
  if outcome.resourceId.isNone then { outcome with resourceId := resourceId } else outcome

/-- Decides an enriched request and fulfils the obligations of the decision. -/
def conclude (pipeline : Pipeline) (registry : HandlerRegistry) (policy : PolicySnapshot)
    (request : Request) : Conclusion :=
  let call := Call.decide policy request
  match Engine.ask pipeline.engine request policy with
  | .error reason => ⟨[call], [], .failed (.evaluation reason) request.resourceId?⟩
  | .ok outcome =>
    let outcome := fillResource outcome request.resourceId?
    let processing := registry.process request outcome
    let calls := processing.calls.map fun (handler, obligation) =>
      Call.fulfil handler obligation outcome request
    match processing.result with
    | .ok applied => ⟨call :: calls, processing.fulfilled, .decided outcome applied⟩
    | .error fault =>
      ⟨call :: calls, processing.fulfilled,
        .failed (.obligation fault.obligationId fault.reason) outcome.resourceId⟩

end Pipeline

structure Occasion where
  requestId : String
  requesterId : Option String
deriving DecidableEq, Repr, Inhabited

namespace Occasion

def of (request : Request) : Occasion :=
  ⟨request.id, request.issuer⟩

def result (occasion : Occasion) (policy : Option PolicySnapshot) (responseId : String)
    (completedAt : Instant) : Verdict → FinalResult
  | .decided outcome applied =>
    ⟨occasion.requestId, occasion.requesterId, responseId, outcome,
      policy.map PolicySnapshot.reference, applied, .resultReady, none, completedAt⟩
  | .failed failure resourceId =>
    ⟨occasion.requestId, occasion.requesterId, responseId,
      .ofProcessingError failure.message resourceId,
      policy.map PolicySnapshot.reference, [], failure.stage, some failure, completedAt⟩

end Occasion

end DecisionPoint
