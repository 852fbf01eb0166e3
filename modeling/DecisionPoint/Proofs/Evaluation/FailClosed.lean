import DecisionPoint.Proofs.Evaluation.Completion
import DecisionPoint.Proofs.Obligation.Walk

/-!
# Evaluations fail closed

A result is free of failure exactly when every step of its course went well, and all other results
are alike: indeterminate, with the wording of the failure and no obligations.
-/

set_option autoImplicit false

namespace DecisionPoint

/-! ## Success and failure -/

/-- The outcome of an engine with the resource of the request where it names none. -/
def Outcome.completedBy (outcome : Outcome) (request : Request) : Outcome :=
  { outcome with resourceId := outcome.resourceId.or request.resourceId? }

theorem fillResource_eq_completedBy (outcome : Outcome) (request : Request) :
    Pipeline.fillResource outcome request.resourceId? = outcome.completedBy request := by
  obtain ⟨decision, status, obligations, resourceId⟩ := outcome
  cases resourceId <;> rfl

/-- Every step of an evaluation went well: there was a policy, all information points succeeded, the
engine decided, and every handler that was called fulfilled its obligation. -/
def Pipeline.WentWell (pipeline : Pipeline) (registry : HandlerRegistry)
    (policy : Option PolicySnapshot) (request : Request) (ends : List Consultation)
    (outcome : Outcome) : Prop :=
  let enriched := lastRequest request ends
  let final := outcome.completedBy enriched
  ∃ snapshot, policy = some snapshot ∧ ends.map Consultation.point = pipeline.points ∧
    (∀ past ∈ ends, past.Succeeded) ∧ pipeline.engine enriched snapshot = .decided outcome ∧
    ∀ call ∈ (registry.process enriched final).calls,
      call.1.apply enriched final call.2 = .fulfilled

structure FinalResult.FailedClosed (result : FinalResult) (failure : StageFailure) : Prop where
  stage : result.stage = failure.stage
  applied : result.appliedObligations = []
  decision : result.outcome.decision = .indeterminate
  status : result.outcome.status = ⟨.processingError, some failure.message⟩
  obligations : result.outcome.obligations = []

theorem Pipeline.conclude_of_decided (pipeline : Pipeline) (registry : HandlerRegistry)
    (policy : PolicySnapshot) (request : Request) (outcome : Outcome)
    (decided : pipeline.engine request policy = .decided outcome) :
    (pipeline.conclude registry policy request).verdict =
      match (registry.process request (outcome.completedBy request)).fault with
      | none =>
        .decided (outcome.completedBy request)
          (registry.process request (outcome.completedBy request)).fulfilled
      | some fault =>
        .failed (.obligation fault.obligationId fault.reason)
          (outcome.completedBy request).resourceId := by
  unfold Pipeline.conclude Engine.ask
  rw [decided]
  simp only [fillResource_eq_completedBy, HandlerRegistry.Processing.result]
  cases (registry.process request (outcome.completedBy request)).fault <;> rfl

theorem Pipeline.conclude_of_undecided (pipeline : Pipeline) (registry : HandlerRegistry)
    (policy : PolicySnapshot) (request : Request)
    (undecided : ∀ outcome, pipeline.engine request policy ≠ .decided outcome) :
    ∃ reason, (pipeline.conclude registry policy request).verdict =
      .failed (.evaluation reason) request.resourceId? := by
  unfold Pipeline.conclude Engine.ask
  cases answer : pipeline.engine request policy with
  | decided outcome => exact absurd answer (undecided outcome)
  | failed reason => exact ⟨reason, rfl⟩
  | panicked => exact ⟨_, rfl⟩

/-- The verdict of an evaluation is a decision when every step went well and else a failure. -/
theorem Pipeline.verdictOf_cases (pipeline : Pipeline) (registry : HandlerRegistry)
    (snapshot : PolicySnapshot) (request : Request) (ends : List Consultation)
    (ended : Except Verdict Request)
    (outlined : Outlines pipeline.points request ends (.done ended)) :
    (∃ outcome applied,
      pipeline.WentWell registry (some snapshot) request ends outcome ∧
        pipeline.verdictOf registry snapshot ended =
          .decided (outcome.completedBy (lastRequest request ends)) applied) ∨
    ((∀ outcome, ¬ pipeline.WentWell registry (some snapshot) request ends outcome) ∧
      ∃ failure resourceId,
        pipeline.verdictOf registry snapshot ended = .failed failure resourceId) := by
  match ended with
  | .error verdict =>
      obtain ⟨earlier, last, fault, split, -, faulty, failed⟩ := outlined
      refine .inr ⟨?_, _, _, failed⟩
      rintro outcome ⟨_, -, -, succeeded, -⟩
      have lastSucceeded : last.Succeeded := succeeded last (by simp [split])
      rw [lastSucceeded] at faulty
      cases faulty
  | .ok enriched =>
      obtain ⟨all, succeeded, left⟩ := outlined
      subst left
      by_cases decided :
          ∃ outcome, pipeline.engine (lastRequest request ends) snapshot = .decided outcome
      · obtain ⟨outcome, decided⟩ := decided
        have verdict := pipeline.conclude_of_decided registry snapshot _ outcome decided
        have faultless := registry.process_fault_eq_none_iff (lastRequest request ends)
          (outcome.completedBy (lastRequest request ends))
        cases fault : (registry.process (lastRequest request ends)
            (outcome.completedBy (lastRequest request ends))).fault with
        | none =>
            rw [fault] at verdict
            exact .inl ⟨outcome, _,
              ⟨snapshot, rfl, all, succeeded, decided, faultless.mp fault⟩, verdict⟩
        | some reason =>
            rw [fault] at verdict
            refine .inr ⟨?_, _, _, verdict⟩
            rintro other ⟨snapshot', same, -, -, decided', fulfilled⟩
            cases same
            rw [decided] at decided'
            cases decided'
            rw [faultless.mpr fulfilled] at fault
            cases fault
      · have undecided : ∀ outcome,
            pipeline.engine (lastRequest request ends) snapshot ≠ .decided outcome :=
          fun outcome answer => decided ⟨outcome, answer⟩
        obtain ⟨reason, verdict⟩ :=
          pipeline.conclude_of_undecided registry snapshot _ undecided
        refine .inr ⟨?_, _, _, verdict⟩
        rintro outcome ⟨snapshot', same, -, -, answer, -⟩
        cases same
        exact undecided outcome answer

/-! ## Results -/

/-- What a result says about the steps of its evaluation. -/
structure Pipeline.Answers (pipeline : Pipeline) (registry : HandlerRegistry)
    (policy : Option PolicySnapshot) (request : Request) (ends : List Consultation)
    (result : FinalResult) : Prop where
  faultless : result.failure = none ↔
    ∃ outcome, pipeline.WentWell registry policy request ends outcome
  succeeded : ∀ outcome, pipeline.WentWell registry policy request ends outcome →
    result.stage = .resultReady ∧
      result.outcome = outcome.completedBy (lastRequest request ends)
  failed : ∀ failure, result.failure = some failure → result.FailedClosed failure
  decided : result.outcome.decision ≠ .indeterminate →
    ∃ outcome, pipeline.WentWell registry policy request ends outcome ∧
      result.outcome.decision = outcome.decision

/-- What an evaluation promises: while it waits, the call of the next information point has not
ended, and a result answers for all steps. -/
def Pipeline.FailsClosed (pipeline : Pipeline) (registry : HandlerRegistry)
    (policy : Option PolicySnapshot) (request : Request) (ends : List Consultation) :
    Progress FinalResult Evaluation → Prop
  | .waiting evaluation =>
    policy.isSome = true ∧ (∀ past ∈ ends, past.Succeeded) ∧
      pipeline.points =
        ends.map Consultation.point ++ evaluation.wait.point :: evaluation.wait.later
  | .done result => pipeline.Answers registry policy request ends result

section Results

variable {pipeline : Pipeline} {registry : HandlerRegistry} {policy : Option PolicySnapshot}
  {request : Request} {ends : List Consultation}

theorem Pipeline.WentWell.unique {outcome other : Outcome}
    (well : pipeline.WentWell registry policy request ends outcome)
    (otherWell : pipeline.WentWell registry policy request ends other) : outcome = other := by
  obtain ⟨snapshot, present, -, -, decided, -⟩ := well
  obtain ⟨snapshot', present', -, -, decided', -⟩ := otherWell
  have same : snapshot = snapshot' := Option.some.inj (present.symm.trans present')
  subst same
  rw [decided] at decided'
  cases decided'
  rfl

theorem answers_of_decided (occasion : Occasion) (responseId : String) (completedAt : Instant)
    (outcome : Outcome) (applied : List String)
    (well : pipeline.WentWell registry policy request ends outcome) :
    pipeline.Answers registry policy request ends
      (occasion.result policy responseId completedAt
        (.decided (outcome.completedBy (lastRequest request ends)) applied)) where
  faultless := ⟨fun _ => ⟨outcome, well⟩, fun _ => rfl⟩
  succeeded other otherWell := by
    rw [otherWell.unique well]
    exact ⟨rfl, rfl⟩
  failed failure impossible := by cases impossible
  decided _ := ⟨outcome, well, rfl⟩

theorem answers_of_failed (occasion : Occasion) (responseId : String) (completedAt : Instant)
    (failure : StageFailure) (resourceId : Option String)
    (unwell : ∀ outcome, ¬ pipeline.WentWell registry policy request ends outcome) :
    pipeline.Answers registry policy request ends
      (occasion.result policy responseId completedAt (.failed failure resourceId)) where
  faultless := by
    constructor
    · intro impossible
      cases impossible
    · rintro ⟨outcome, well⟩
      exact absurd well (unwell outcome)
  succeeded outcome well := absurd well (unwell outcome)
  failed reason same := by
    cases same
    exact ⟨rfl, rfl, rfl, rfl, rfl⟩
  decided impossible := absurd rfl impossible

end Results

theorem Course.failsClosed {pipeline : Pipeline} {policy : Option PolicySnapshot}
    {request : Request} {ends : List Consultation} {service : Service}
    {progress : Progress FinalResult Evaluation}
    (course : Course pipeline policy request ends service progress) :
    pipeline.FailsClosed service.registry policy request ends progress := by
  have told := course.tells
  match progress with
  | .waiting evaluation =>
      obtain ⟨pinned, -, succeeded, split⟩ := told
      refine ⟨?_, succeeded, split⟩
      rw [pinned]
      rfl
  | .done result =>
      obtain ⟨responseId, completedAt, ⟨absent, -, same⟩ |
        ⟨snapshot, ended, present, outlined, same⟩⟩ := told
      · rw [absent, same]
        apply answers_of_failed
        rintro outcome ⟨_, missing, -⟩
        cases missing
      · rw [present, same]
        rcases pipeline.verdictOf_cases service.registry snapshot request ends ended outlined with
          ⟨outcome, applied, well, verdict⟩ | ⟨unwell, failure, resourceId, verdict⟩
        · rw [verdict]
          exact answers_of_decided _ responseId completedAt outcome applied well
        · rw [verdict]
          exact answers_of_failed _ responseId completedAt failure resourceId unwell

/-- Evaluations fail closed: a result is free of failure exactly when there was a policy, all
information points succeeded, the engine decided and every handler that was called fulfilled its
obligation.  Then it carries the outcome of the engine; otherwise it is indeterminate.  An
evaluation comes to a result unless a point without a limit waits for ever. -/
theorem evaluation_fails_closed (pipeline : Pipeline) (policy : Option PolicySnapshot)
    (request : Request) (ends : List Consultation) (service : Service)
    (progress : Progress FinalResult Evaluation)
    (course : Course pipeline policy request ends service progress) :
    pipeline.FailsClosed service.registry policy request ends progress ∧
      ((∀ point ∈ pipeline.points, point.Limited pipeline.timeout) →
        ∃ ends' result,
          Course pipeline policy request (ends ++ ends') service (.done result)) :=
  ⟨course.failsClosed, course.completes⟩

/-! ## A course in two parts -/

namespace SampleCourse

/-- An information point that takes three milliseconds. -/
def clock : Point :=
  .ofScript "clock" (.pause 3
    (.add .environment (.single "hour" "noon") fun _ => .finish .succeeded))

def permitting : Outcome :=
  .new .permit [⟨"log", .permit, .empty⟩] none

def pipeline : Pipeline :=
  ⟨fun _ _ => .decided permitting, [clock], some (.ofSecs 5)⟩

def snapshot : PolicySnapshot :=
  .new "alpha" "1" .epoch

def registry : HandlerRegistry :=
  ⟨[(⟨0, "log"⟩, .plain "logger" "log" fun _ _ _ => .fulfilled)], [("log", ⟨0, "log"⟩)]⟩

def service : Service :=
  let idle := Service.new .default .unavailable pipeline.engine [clock] registry .epoch
  { idle with cache := idle.cache.publish snapshot }

def request : Request := .blank "r"

/-- The request with what the information point has added. -/
def enriched : Request :=
  { request with environment := request.environment.insert (.single "hour" "noon") }

end SampleCourse

open SampleCourse in
/-- A request that is permitted after a pause of its information point. -/
theorem evaluation_permits_after_pause :
    ∃ result,
      Course pipeline (some snapshot) request [⟨clock, .answered .succeeded, enriched⟩] service
        (.done result) ∧
      result.failure = none ∧ result.stage = .resultReady ∧ result.outcome.decision = .permit := by
  have course : Course pipeline (some snapshot) request
      [⟨clock, .answered .succeeded, enriched⟩] service _ :=
    .resumed (.begun service 0 rfl rfl) service 3 rfl
  have closed : pipeline.Answers _ _ _ _ _ :=
    (evaluation_fails_closed pipeline (some snapshot) request _ service (.done _) course).1
  have well : pipeline.WentWell service.registry (some snapshot) request
      [⟨clock, .answered .succeeded, enriched⟩] permitting := by
    refine ⟨snapshot, rfl, rfl, ?_, rfl, by decide⟩
    intro past member
    rw [List.mem_singleton.mp member]
    rfl
  obtain ⟨stage, outcome⟩ := closed.succeeded permitting well
  exact ⟨_, course, closed.faultless.mpr ⟨permitting, well⟩, stage, by rw [outcome]; rfl⟩

end DecisionPoint
