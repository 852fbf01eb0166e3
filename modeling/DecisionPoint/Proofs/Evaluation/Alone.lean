import DecisionPoint.Proofs.Evaluation.Serving
import DecisionPoint.Proofs.Evaluation.Settling

/-!
# Evaluations that run alone

An evaluation that runs alone is looked at whenever it can go on.  It comes to the verdict that the
pipeline, the registry and the policy have on its request, and so does an evaluation among others
that is looked at in time.
-/

set_option autoImplicit false

namespace DecisionPoint

/-- What evaluations go by. -/
structure Rules where
  pipeline : Pipeline
  registry : HandlerRegistry
  policy : Option PolicySnapshot

def Service.rules (service : Service) : Rules :=
  ⟨service.pipeline, service.registry, service.cache.current⟩

/-- Two results that differ at most in their identifiers and times. -/
def FinalResult.SameAnswer (a b : FinalResult) : Prop :=
  { a with responseId := b.responseId, completedAt := b.completedAt } = b

namespace Rules

variable (rules : Rules) (request : Request)

/-- The verdict on a request, if its evaluation does not wait for ever. -/
def verdict? : Option Verdict :=
  match rules.policy with
  | none => some (.failed .policyUnavailable none)
  | some policy =>
    (Pipeline.enrichAlone rules.pipeline.timeout rules.pipeline.points request).map
      (rules.pipeline.verdictOf rules.registry policy)

def Answers (result : FinalResult) : Prop :=
  ∃ verdict responseId completedAt, rules.verdict? request = some verdict ∧
    result = (Occasion.of request).result rules.policy responseId completedAt verdict

/-- An evaluation that has come so far comes to the verdict on the request. -/
def Foretells : Progress FinalResult Evaluation → Prop
  | .done result => rules.Answers request result
  | .waiting evaluation =>
    rules.policy = some evaluation.policy ∧ evaluation.occasion = .of request ∧
      Pipeline.comesTo rules.pipeline.timeout (.waiting evaluation.wait) =
        Pipeline.enrichAlone rules.pipeline.timeout rules.pipeline.points request

variable {rules request}

theorem Answers.same {result result' : FinalResult} (answers : rules.Answers request result)
    (answers' : rules.Answers request result') : result.SameAnswer result' := by
  obtain ⟨verdict, responseId, completedAt, said, rfl⟩ := answers
  obtain ⟨verdict', responseId', completedAt', said', rfl⟩ := answers'
  rw [said] at said'
  cases said'
  cases verdict <;> rfl

end Rules

namespace Service

theorem proceed_foretold (service : Service) (now : Nat) (request : Request)
    (policy : PolicySnapshot) (work : Pipeline.Enriching)
    (inEffect : service.cache.current = some policy)
    (comes : Pipeline.comesTo service.pipeline.timeout work.progress =
      Pipeline.enrichAlone service.pipeline.timeout service.pipeline.points request) :
    service.rules.Foretells request (service.proceed now (.of request) policy work).2 := by
  cases reached : work.progress with
  | waiting wait =>
      rw [service.proceed_waiting now (.of request) policy work wait reached]
      rw [reached] at comes
      exact ⟨inEffect, rfl, comes⟩
  | done ended =>
      obtain ⟨responseId, result⟩ :=
        service.proceed_done now (.of request) policy work ended reached
      rw [reached] at comes
      rw [result]
      refine ⟨_, responseId, .ofMillis now, ?_, by rw [rules, inEffect]⟩
      rw [Rules.verdict?, rules, inEffect]
      exact congrArg (Option.map _) comes.symm

theorem evaluate_foretold (service : Service) (now : Nat) (request : Request) :
    service.rules.Foretells request (service.evaluate now request).2 := by
  unfold evaluate
  cases inEffect : service.cache.current with
  | none =>
      refine ⟨.failed .policyUnavailable none, freshIdentifier now service.nextNumber,
        .ofMillis now, ?_, ?_⟩
      · rw [Rules.verdict?, rules, inEffect]
      · rw [rules, inEffect]
        rfl
  | some policy =>
      exact service.proceed_foretold now request policy _ inEffect
        (Pipeline.enrichBy_comesTo _ now _ request)

/-- A look in time changes nothing of what an evaluation comes to. -/
theorem resumeEvaluation_foretold (service : Service) (now : Nat) {request : Request}
    {evaluation : Evaluation} (foretold : service.rules.Foretells request (.waiting evaluation))
    (punctual : evaluation.wait.Punctual now) :
    service.rules.Foretells request (service.resumeEvaluation now evaluation).2 := by
  obtain ⟨inEffect, occasion, comes⟩ := foretold
  unfold resumeEvaluation
  rw [occasion]
  refine service.proceed_foretold now request evaluation.policy _ inEffect ?_
  rw [← Pipeline.resumeEnriching_comesTo _ punctual] at comes
  exact comes

theorem complete_rules (service : Service) (now : Nat) (occasion : Occasion)
    (policy : Option PolicySnapshot) (verdict : Verdict) :
    (service.complete now occasion policy verdict).1.rules = service.rules := rfl

theorem proceed_rules (service : Service) (now : Nat) (occasion : Occasion)
    (policy : PolicySnapshot) (work : Pipeline.Enriching) :
    (service.proceed now occasion policy work).1.rules = service.rules := by
  unfold proceed
  simp only
  split
  · rfl
  · exact complete_rules _ now occasion (some policy) _
  · exact complete_rules _ now occasion (some policy) _

theorem resumeEvaluation_rules (service : Service) (now : Nat) (evaluation : Evaluation) :
    (service.resumeEvaluation now evaluation).1.rules = service.rules :=
  service.proceed_rules now _ _ _

theorem evaluate_rules (service : Service) (now : Nat) (request : Request) :
    (service.evaluate now request).1.rules = service.rules := by
  unfold evaluate
  split
  · exact service.complete_rules now (.of request) none (.failed .policyUnavailable none)
  · exact service.proceed_rules now (.of request) _ _

/-! ## Lone evaluations -/

/-- An evaluation that is looked at whenever it can go on, while nothing else happens. -/
inductive GoesOnAlone : Service → Progress FinalResult Evaluation → FinalResult → Prop where
  | ended (service : Service) (result : FinalResult) : GoesOnAlone service (.done result) result
  | looked {service : Service} {evaluation : Evaluation} {time : Nat} {result : FinalResult}
      (wakes : evaluation.wait.wake = some time)
      (rest : GoesOnAlone (service.resumeEvaluation time evaluation).1
        (service.resumeEvaluation time evaluation).2 result) :
      GoesOnAlone service (.waiting evaluation) result

/-- The evaluation of a request that begins at a time comes to a result while nothing else
happens. -/
def EvaluatesAlone (service : Service) (now : Nat) (request : Request) (result : FinalResult) :
    Prop :=
  GoesOnAlone (service.evaluate now request).1 (service.evaluate now request).2 result

theorem GoesOnAlone.answers {service : Service} {progress : Progress FinalResult Evaluation}
    {result : FinalResult} (alone : service.GoesOnAlone progress result) {request : Request}
    (foretold : service.rules.Foretells request progress) :
    service.rules.Answers request result := by
  induction alone with
  | ended service result => exact foretold
  | @looked service evaluation time result wakes rest ih =>
      rw [resumeEvaluation_rules] at ih
      exact ih (service.resumeEvaluation_foretold time foretold (PointWait.punctual_of_wake wakes))

/-- An evaluation comes to a result alone if its enrichment ends. -/
theorem goesOnAlone_of_elapses {timeout : Option Span}
    {progress : Progress (Except Verdict Request) PointWait}
    (elapses : Pipeline.Elapses timeout progress) (service : Service)
    (fixed : service.pipeline.timeout = timeout) (evaluation : Evaluation)
    (waits : progress = .waiting evaluation.wait) :
    ∃ result, service.GoesOnAlone (.waiting evaluation) result := by
  induction elapses generalizing service evaluation with
  | done ended => cases waits
  | @waiting wait time wakes later ih =>
      cases waits
      cases reached : (service.resumeEvaluation time evaluation).2 with
      | done result =>
          refine ⟨result, .looked wakes ?_⟩
          rw [reached]
          exact .ended _ _
      | waiting evaluation' =>
          have same := service.wait_of_proceed time _ _ _ evaluation' reached
          have kept :=
            congrArg (·.pipeline.timeout) (service.resumeEvaluation_rules time evaluation)
          rw [fixed] at same
          obtain ⟨result, alone⟩ := ih _ (kept.trans fixed) evaluation' same
          refine ⟨result, .looked wakes ?_⟩
          rw [reached]
          exact alone

theorem evaluatesAlone_of_verdict (service : Service) (now : Nat) (request : Request)
    (decided : (service.rules.verdict? request).isSome = true) :
    ∃ result, service.EvaluatesAlone now request result := by
  unfold EvaluatesAlone
  cases reached : (service.evaluate now request).2 with
  | done result => exact ⟨result, .ended _ _⟩
  | waiting evaluation =>
      have foretold := service.evaluate_foretold now request
      rw [reached] at foretold
      obtain ⟨inEffect, -, -⟩ := foretold
      have current : service.cache.current = some evaluation.policy := inEffect
      have waits := reached
      rw [evaluate, current] at waits
      rw [Rules.verdict?, inEffect, Option.isSome_map] at decided
      have elapses := Pipeline.enrichBy_elapses _ _ now request decided
      have same := service.wait_of_proceed now _ _ _ evaluation waits
      have kept := congrArg (·.pipeline.timeout) (service.evaluate_rules now request)
      exact goesOnAlone_of_elapses elapses _ kept evaluation same

end Service

/-- An answer is what its request comes to alone, at any time and in any service with the same
rules. -/
theorem Rules.Answers.alone {rules : Rules} {request : Request} {result : FinalResult}
    (answers : rules.Answers request result) (service : Service) (same : service.rules = rules)
    (now : Nat) :
    (∃ lone, service.EvaluatesAlone now request lone) ∧
      ∀ lone, service.EvaluatesAlone now request lone → result.SameAnswer lone := by
  subst same
  refine ⟨?_, ?_⟩
  · obtain ⟨verdict, -, -, said, -⟩ := answers
    exact service.evaluatesAlone_of_verdict now request (by rw [said]; rfl)
  · intro lone alone
    have foretold := service.evaluate_foretold now request
    rw [← service.evaluate_rules now request] at foretold
    have answers' := Service.GoesOnAlone.answers alone foretold
    rw [service.evaluate_rules now request] at answers'
    exact answers.same answers'

end DecisionPoint
