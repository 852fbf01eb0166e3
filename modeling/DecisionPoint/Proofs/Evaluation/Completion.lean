import DecisionPoint.Proofs.Evaluation.Course

/-!
# Evaluations come to an end

An evaluation waits for ever only in a point that never answers and has no limit.  Otherwise it can
be brought to its result from wherever it waits, by looking at it when it can go on.
-/

set_option autoImplicit false

namespace DecisionPoint

/-! ## Scripts -/

namespace Script

/-- Whatever a script meets, it answers in the end. -/
def Answers : Script → Prop
  | finish _ => True
  | pause _ next => next.Answers
  | hang => False
  | add _ _ next => ∀ added, (next added).Answers
  | look next => ∀ request, (next request).Answers

/-- A script that is looked at has its answer, or tells when it goes on with what is left. -/
def Waits (holds : Script → Prop) (script : Script) : Prop :=
  ∀ enrichment now enrichment' resumesAt rest,
    script.run enrichment now = (enrichment', .waiting (resumesAt, rest)) →
      resumesAt.isSome = true ∧ holds rest

/-- What follows for a script from what is left of it holds of all that is left of a script that
answers. -/
theorem waits_of_answers (holds : Script → Prop)
    (step : ∀ script, script.Answers → Waits holds script → holds script) (script : Script)
    (answers : script.Answers) : Waits holds script := by
  induction script with
  | finish answer => exact nofun
  | pause millis next ih =>
      intro enrichment now enrichment' resumesAt rest ran
      by_cases instant : millis = 0
      · rw [run, if_pos instant] at ran
        exact ih answers _ _ _ _ _ ran
      · rw [run, if_neg instant] at ran
        cases ran
        exact ⟨rfl, step next answers (ih answers)⟩
  | hang => exact answers.elim
  | add category entry next ih =>
      intro enrichment now enrichment' resumesAt rest ran
      unfold run at ran
      split at ran
      · exact ih _ (answers _) _ _ _ _ _ ran
      · exact ih _ (answers _) _ _ _ _ _ ran
  | look next ih =>
      intro enrichment now enrichment' resumesAt rest ran
      exact ih _ (answers enrichment.request) _ _ _ _ _ ran

theorem waits_answers (script : Script) (answers : script.Answers) : Waits Answers script :=
  waits_of_answers Answers (fun _ answers _ => answers) script answers

end Script

/-! ## Enrichments -/

/-- A call of a point does not wait for ever: there is a limit, or the point answers. -/
def Point.Limited (timeout : Option Span) (point : Point) : Prop :=
  timeout.isSome = true ∨ point.enrich.Answers

/-- A waiting call does not wait for ever, and neither do those after it. -/
structure PointWait.Limited (timeout : Option Span) (wait : PointWait) : Prop where
  call : wait.deadline.isSome = true ∨ wait.resumesAt.isSome = true ∧ wait.script.Answers
  later : ∀ point ∈ wait.later, point.Limited timeout

namespace Pipeline

variable {timeout : Option Span}

/-- An enrichment that can be brought to its end by looking at it now and then, from a time on. -/
inductive Completes (timeout : Option Span) :
    Nat → Progress (Except Verdict Request) PointWait → Prop where
  | done (earliest : Nat) (ended : Except Verdict Request) :
      Completes timeout earliest (.done ended)
  | waiting (earliest : Nat) (wait : PointWait) (now : Nat) (forward : earliest ≤ now)
      (later : Completes timeout now (resumeEnriching timeout now wait).progress) :
      Completes timeout earliest (.waiting wait)

theorem enrichBy_limited (now : Nat) (points : List Point)
    (limited : ∀ point ∈ points, point.Limited timeout) (request : Request) (wait : PointWait)
    (waits : (enrichBy timeout now points request).progress = .waiting wait) :
    wait.Limited timeout := by
  induction points generalizing request with
  | nil => cases waits
  | cons point later ih =>
      have others : ∀ other ∈ later, other.Limited timeout := fun other member =>
        limited other (List.mem_cons_of_mem _ member)
      unfold enrichBy at waits
      cases ran : point.enrich.run (.start request) now with
      | mk enrichment progress =>
          rw [ran] at waits
          cases progress with
          | done answer =>
              cases answer with
              | succeeded => exact ih others _ waits
              | failed fault => cases waits
              | panicked => cases waits
          | waiting next =>
              obtain ⟨resumesAt, script⟩ := next
              simp only at waits
              split at waits
              · cases waits
              · cases waits
                refine ⟨?_, others⟩
                rcases limited point (List.mem_cons_self) with timed | answers
                · obtain ⟨limit, rfl⟩ := Option.isSome_iff_exists.mp timed
                  exact .inl rfl
                · exact .inr (point.enrich.waits_answers answers _ _ _ _ _ ran)

theorem look_limited {wait : PointWait} {now : Nat} {enrichment : Enrichment}
    {resumesAt : Option Nat} {script : Script}
    (call : wait.resumesAt.isSome = true ∧ wait.script.Answers)
    (looked : wait.look now = (enrichment, .waiting (resumesAt, script))) :
    resumesAt.isSome = true ∧ script.Answers := by
  unfold PointWait.look at looked
  split at looked
  · exact wait.script.waits_answers call.2 _ _ _ _ _ looked
  · cases looked
    exact call

theorem resumeEnriching_limited (now : Nat) (wait wait' : PointWait)
    (limited : wait.Limited timeout)
    (waits : (resumeEnriching timeout now wait).progress = .waiting wait') :
    wait'.Limited timeout := by
  rw [resumeEnriching_eq] at waits
  cases looked : wait.look now with
  | mk enrichment progress =>
      rw [looked] at waits
      cases progress with
      | done answer =>
          cases answer with
          | succeeded => exact enrichBy_limited now wait.later limited.later _ wait' waits
          | failed fault => cases waits
          | panicked => cases waits
      | waiting next =>
          obtain ⟨resumesAt, script⟩ := next
          simp only at waits
          split at waits
          · cases waits
          · cases waits
            refine ⟨?_, limited.later⟩
            rcases limited.call with timed | call
            · exact .inl timed
            · exact .inr (look_limited call looked)

/-- A waiting call can be brought to its end if it can be once it has been looked at. -/
theorem completes_of_look (wait : PointWait) {earliest now : Nat} (forward : earliest ≤ now)
    (later : ∀ now request,
      Completes timeout now (enrichBy timeout now wait.later request).progress)
    (rest : ∀ enrichment resumesAt script,
      wait.look now = (enrichment, .waiting (resumesAt, script)) →
        hasCome now wait.deadline = true ∨
          Completes timeout now (.waiting
            { wait with enrichment := enrichment, script := script, resumesAt := resumesAt })) :
    Completes timeout earliest (.waiting wait) := by
  refine .waiting earliest wait now forward ?_
  rw [resumeEnriching_eq]
  cases looked : wait.look now with
  | mk enrichment progress =>
      cases progress with
      | done answer =>
          cases answer with
          | succeeded => exact later now _
          | failed fault => exact .done now _
          | panicked => exact .done now _
      | waiting next =>
          obtain ⟨resumesAt, script⟩ := next
          by_cases late : hasCome now wait.deadline = true
          · simp only [late, if_true]
            exact .done now _
          · simp only [if_neg late]
            exact (rest _ _ _ looked).resolve_left late

/-- Calls that wait with this script left can be brought to their ends. -/
def Finishes (timeout : Option Span) (script : Script) : Prop :=
  ∀ (wait : PointWait) (earliest : Nat), wait.script = script → wait.resumesAt.isSome = true →
    (∀ now request, Completes timeout now (enrichBy timeout now wait.later request).progress) →
      Completes timeout earliest (.waiting wait)

theorem finishes_of_waits (script : Script) (waits : script.Waits (Finishes timeout)) :
    Finishes timeout script := by
  intro wait earliest same goesOn later
  obtain ⟨time, due⟩ := Option.isSome_iff_exists.mp goesOn
  refine completes_of_look wait (Nat.le_max_left earliest time) later ?_
  intro enrichment resumesAt rest looked
  have come : hasCome (max earliest time) wait.resumesAt = true := by
    rw [due]
    exact decide_eq_true (Nat.le_max_right _ _)
  rw [PointWait.look, if_pos come, same] at looked
  obtain ⟨goesOn', finishes⟩ := waits _ _ _ _ _ looked
  exact .inr (finishes _ _ rfl goesOn' later)

/-- A call that does not wait for ever is brought to its end: at its deadline, if it has one, and
otherwise in as many looks as its script has pauses. -/
theorem wait_completes (wait : PointWait) (limited : wait.Limited timeout)
    (later : ∀ now request,
      Completes timeout now (enrichBy timeout now wait.later request).progress)
    (earliest : Nat) : Completes timeout earliest (.waiting wait) := by
  rcases limited.call with timed | ⟨goesOn, answers⟩
  · obtain ⟨deadline, due⟩ := Option.isSome_iff_exists.mp timed
    refine completes_of_look wait (Nat.le_max_left earliest deadline) later ?_
    intro _ _ _ _
    refine .inl ?_
    rw [due]
    exact decide_eq_true (Nat.le_max_right _ _)
  · have waits := wait.script.waits_of_answers (Finishes timeout)
      (fun script _ => finishes_of_waits script) answers
    exact finishes_of_waits wait.script waits wait earliest rfl goesOn later

theorem enrichBy_completes (points : List Point)
    (limited : ∀ point ∈ points, point.Limited timeout) (now : Nat) (request : Request) :
    Completes timeout now (enrichBy timeout now points request).progress := by
  induction points generalizing now request with
  | nil => exact .done now _
  | cons point later ih =>
      have others : ∀ other ∈ later, other.Limited timeout := fun other member =>
        limited other (List.mem_cons_of_mem _ member)
      have waiting := enrichBy_limited now (point :: later) limited request
      unfold enrichBy at waiting ⊢
      cases ran : point.enrich.run (.start request) now with
      | mk enrichment progress =>
          rw [ran] at waiting
          cases progress with
          | done answer =>
              cases answer with
              | succeeded => exact ih others now _
              | failed fault => exact .done now _
              | panicked => exact .done now _
          | waiting next =>
              obtain ⟨resumesAt, script⟩ := next
              by_cases late : hasCome now (timeout.map fun limit => now + limit.millis) = true
              · simp only [if_pos late]
                exact .done now _
              · simp only [if_neg late] at waiting ⊢
                exact wait_completes _ (waiting _ rfl) (ih others) now

end Pipeline

theorem PointWait.Limited.completes {timeout : Option Span} {wait : PointWait}
    (limited : wait.Limited timeout) (earliest : Nat) :
    Pipeline.Completes timeout earliest (.waiting wait) :=
  Pipeline.wait_completes wait limited
    (fun now request => Pipeline.enrichBy_completes wait.later limited.later now request) earliest

/-! ## Courses -/

section Courses

variable {pipeline : Pipeline} {policy : Option PolicySnapshot} {request : Request}
  {ends : List Consultation} {service : Service} {evaluation : Evaluation}

theorem Service.wait_of_proceed (service : Service) (now : Nat) (occasion : Occasion)
    (policy : PolicySnapshot) (work : Pipeline.Enriching) (evaluation : Evaluation)
    (waits : (service.proceed now occasion policy work).2 = .waiting evaluation) :
    work.progress = .waiting evaluation.wait := by
  cases reached : work.progress with
  | waiting wait =>
      rw [service.proceed_waiting now occasion policy work wait reached] at waits
      cases waits
      rfl
  | done ended =>
      obtain ⟨responseId, result⟩ :=
        service.proceed_done now occasion policy work ended reached
      rw [result] at waits
      cases waits

/-- An evaluation whose points do not wait for ever waits only in a call that does not. -/
theorem Course.limited {progress : Progress FinalResult Evaluation}
    (course : Course pipeline policy request ends service progress)
    (limited : ∀ point ∈ pipeline.points, point.Limited pipeline.timeout) :
    service.pipeline = pipeline ∧
      ∀ evaluation, progress = .waiting evaluation →
        evaluation.wait.Limited pipeline.timeout := by
  induction course with
  | begun service now fixed inEffect =>
      refine ⟨fixed, ?_⟩
      subst pipeline
      intro evaluation waits
      unfold Service.evaluate at waits
      split at waits
      · cases waits
      · have reached := service.wait_of_proceed now _ _ _ evaluation waits
        exact Pipeline.enrichBy_limited now _ limited request evaluation.wait reached
  | resumed earlier service now fixed ih =>
      refine ⟨fixed, ?_⟩
      subst pipeline
      intro evaluation' waits
      obtain ⟨-, before⟩ := ih
      have reached := service.wait_of_proceed now _ _ _ evaluation' waits
      exact Pipeline.resumeEnriching_limited now _ _ (before _ rfl) reached

/-- A waiting evaluation whose enrichment can be brought to its end can be brought to its result. -/
theorem Course.continues {progress : Progress (Except Verdict Request) PointWait} {earliest : Nat}
    (completes : Pipeline.Completes pipeline.timeout earliest progress)
    (waits : progress = .waiting evaluation.wait) (fixed : service.pipeline = pipeline)
    (course : Course pipeline policy request ends service (.waiting evaluation)) :
    ∃ ends' result, Course pipeline policy request (ends ++ ends') service (.done result) := by
  induction completes generalizing ends evaluation with
  | done earliest ended => cases waits
  | waiting earliest wait now forward later ih =>
      cases waits
      have looked := course.resumed service now fixed
      cases reached : (service.resumeEvaluation now evaluation).2 with
      | done result =>
          rw [reached] at looked
          exact ⟨_, result, looked⟩
      | waiting evaluation' =>
          rw [reached] at looked
          have same := service.wait_of_proceed now _ _ _ evaluation' reached
          rw [fixed] at same
          obtain ⟨ends', result, ended⟩ := ih same looked
          rw [List.append_assoc] at ended
          exact ⟨_, result, ended⟩

/-- An evaluation whose points do not wait for ever comes to a result from wherever it is. -/
theorem Course.completes {progress : Progress FinalResult Evaluation}
    (course : Course pipeline policy request ends service progress)
    (limited : ∀ point ∈ pipeline.points, point.Limited pipeline.timeout) :
    ∃ ends' result, Course pipeline policy request (ends ++ ends') service (.done result) := by
  cases progress with
  | done result =>
      refine ⟨[], result, ?_⟩
      rw [List.append_nil]
      exact course
  | waiting evaluation =>
      obtain ⟨fixed, waits⟩ := course.limited limited
      have call := waits evaluation rfl
      exact course.continues (call.completes 0) rfl fixed

end Courses

end DecisionPoint
