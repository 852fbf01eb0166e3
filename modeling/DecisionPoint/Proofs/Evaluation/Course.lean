import DecisionPoint.Proofs.Evaluation.Consultation
import DecisionPoint.Service.Evaluating

/-!
# Courses of evaluations

A `Course` is one evaluation from its beginning on.  It is looked at now and then, and between two
looks the service may change in any way but for the fixed parts of its pipeline.  How far it is can
be told from the calls of information points that have ended.
-/

set_option autoImplicit false

namespace DecisionPoint

def Pipeline.firstEnds (pipeline : Pipeline) (policy : Option PolicySnapshot) (now : Nat)
    (request : Request) : List Consultation :=
  match policy with
  | none => []
  | some _ => endsBy pipeline.timeout now pipeline.points request

/-- The course of an evaluation that began under `policy`: the calls of information points that have
ended, the service at the last look, and how far the evaluation is. -/
inductive Course (pipeline : Pipeline) (policy : Option PolicySnapshot) (request : Request) :
    List Consultation → Service → Progress FinalResult Evaluation → Prop where
  | begun (service : Service) (now : Nat) (fixed : service.pipeline = pipeline)
      (inEffect : service.cache.current = policy) :
      Course pipeline policy request (pipeline.firstEnds policy now request) service
        (service.evaluate now request).2
  | resumed {ends : List Consultation} {before : Service} {evaluation : Evaluation}
      (earlier : Course pipeline policy request ends before (.waiting evaluation))
      (service : Service) (now : Nat) (fixed : service.pipeline = pipeline) :
      Course pipeline policy request
        (ends ++ Pipeline.endsAfter pipeline.timeout now evaluation.wait) service
        (service.resumeEvaluation now evaluation).2

/-! ## What an evaluation comes to -/

def Pipeline.verdictOf (pipeline : Pipeline) (registry : HandlerRegistry)
    (policy : PolicySnapshot) : Except Verdict Request → Verdict
  | .error verdict => verdict
  | .ok request => (pipeline.conclude registry policy request).verdict

/-- How far an evaluation is, in terms of the calls that have ended. -/
def Pipeline.Tells (pipeline : Pipeline) (policy : Option PolicySnapshot) (request : Request)
    (ends : List Consultation) (registry : HandlerRegistry) :
    Progress FinalResult Evaluation → Prop
  | .waiting evaluation =>
    policy = some evaluation.policy ∧ evaluation.occasion = .of request ∧
      Outlines pipeline.points request ends (.waiting evaluation.wait)
  | .done result =>
    ∃ responseId completedAt,
      (policy = none ∧ ends = [] ∧
        result = (Occasion.of request).result none responseId completedAt
          (.failed .policyUnavailable none)) ∨
      ∃ snapshot ended, policy = some snapshot ∧
        Outlines pipeline.points request ends (.done ended) ∧
        result = (Occasion.of request).result (some snapshot) responseId completedAt
          (pipeline.verdictOf registry snapshot ended)

theorem Service.proceed_waiting (service : Service) (now : Nat) (occasion : Occasion)
    (policy : PolicySnapshot) (work : Pipeline.Enriching) (wait : PointWait)
    (waits : work.progress = .waiting wait) :
    (service.proceed now occasion policy work).2 = .waiting ⟨occasion, policy, wait⟩ := by
  unfold Service.proceed
  rw [waits]

theorem Service.proceed_done (service : Service) (now : Nat) (occasion : Occasion)
    (policy : PolicySnapshot) (work : Pipeline.Enriching) (ended : Except Verdict Request)
    (done : work.progress = .done ended) :
    ∃ responseId, (service.proceed now occasion policy work).2 =
      .done (occasion.result (some policy) responseId (.ofMillis now)
        (service.pipeline.verdictOf service.registry policy ended)) := by
  unfold Service.proceed
  rw [done]
  cases ended with
  | error verdict => exact ⟨_, rfl⟩
  | ok request => exact ⟨_, rfl⟩

/-- A part of an evaluation takes over what its enrichment came to. -/
theorem Service.proceed_tells (service : Service) (now : Nat) (request : Request)
    (policy : PolicySnapshot) (ends : List Consultation) (work : Pipeline.Enriching)
    (outlined : Pipeline.Outlines service.pipeline.points request ends work.progress) :
    service.pipeline.Tells (some policy) request ends service.registry
      (service.proceed now (.of request) policy work).2 := by
  cases reached : work.progress with
  | waiting wait =>
      rw [service.proceed_waiting now (.of request) policy work wait reached]
      exact ⟨rfl, rfl, reached ▸ outlined⟩
  | done ended =>
      obtain ⟨responseId, result⟩ :=
        service.proceed_done now (.of request) policy work ended reached
      rw [result]
      exact ⟨responseId, .ofMillis now, .inr ⟨policy, ended, rfl, reached ▸ outlined, rfl⟩⟩

/-- Every course tells how far its evaluation is.  The induction is on the looks; what carries it is
that a waiting evaluation stands in the call after those that have succeeded. -/
theorem Course.tells {pipeline : Pipeline} {policy : Option PolicySnapshot} {request : Request}
    {ends : List Consultation} {service : Service} {progress : Progress FinalResult Evaluation}
    (course : Course pipeline policy request ends service progress) :
    pipeline.Tells policy request ends service.registry progress := by
  induction course with
  | begun service now fixed inEffect =>
      subst pipeline
      unfold Service.evaluate
      cases current : service.cache.current with
      | none =>
          rw [← inEffect, current]
          exact ⟨_, _, .inl ⟨rfl, rfl, rfl⟩⟩
      | some snapshot =>
          rw [← inEffect, current]
          exact service.proceed_tells now request snapshot _ _
            (Pipeline.enrichBy_outlines _ now _ request)
  | @resumed ends before evaluation earlier service now fixed ih =>
      subst pipeline
      obtain ⟨pinned, occasion, succeeded, split⟩ := ih
      unfold Service.resumeEvaluation
      rw [pinned, occasion]
      apply service.proceed_tells
      rw [split]
      exact Pipeline.Outlines.after ends _ _ request _ succeeded
        (Pipeline.resumeEnriching_outlines _ now evaluation.wait _)

end DecisionPoint
