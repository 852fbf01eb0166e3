import DecisionPoint.Proofs.Evaluation.Completion
import DecisionPoint.Proofs.Evaluation.Serving
import DecisionPoint.Proofs.Schedule.Ledger

/-!
# Workers wait for what comes

The pipeline of a service stays the same.  If none of its points can wait for ever, no worker waits
in a call that does.
-/

set_option autoImplicit false

namespace DecisionPoint

/-- No call of a point waits for ever. -/
def Pipeline.Limited (pipeline : Pipeline) : Prop :=
  ∀ point ∈ pipeline.points, point.Limited pipeline.timeout

/-- A worker does not wait for ever in the call of a point. -/
def WorkerPhase.Limited (timeout : Option Span) : WorkerPhase → Prop
  | evaluating _ evaluation => evaluation.wait.Limited timeout
  | _ => True

theorem Look.limited (look : Look) (limited : look.service.pipeline.Limited)
    (waited : ∀ evaluation, look.waited = some evaluation →
      evaluation.wait.Limited look.service.pipeline.timeout)
    {evaluation : Evaluation} (waits : look.run.2 = .waiting evaluation) :
    evaluation.wait.Limited look.service.pipeline.timeout := by
  unfold run at waits
  cases earlier : look.waited with
  | none =>
      rw [earlier] at waits
      simp only [Service.evaluate] at waits
      split at waits
      · cases waits
      · have reached := look.service.wait_of_proceed look.now _ _ _ evaluation waits
        exact Pipeline.enrichBy_limited look.now _ limited look.request evaluation.wait reached
  | some before =>
      rw [earlier] at waits
      have reached := look.service.wait_of_proceed look.now _ _ _ evaluation waits
      exact Pipeline.resumeEnriching_limited look.now _ _ (waited before earlier) reached

theorem WorkerTurn.limited {now : Nat} {id : WorkerId} {phase : WorkerPhase}
    {service after : Service} {deeds : List Deed} {progress : Progress Unit WorkerPhase}
    (turn : WorkerTurn now id phase service deeds after progress)
    (limited : service.pipeline.Limited) (before : phase.Limited service.pipeline.timeout) :
    ∀ phase' ∈ progress.rest, phase'.Limited service.pipeline.timeout := by
  have idle : ∀ service : Service, WorkerPhase.idle.Limited service.pipeline.timeout :=
    fun _ => trivial
  induction turn with
  | @arrives service after deeds progress rest ih =>
      rw [← (service.updateShell_attends _ _).pipeline] at limited ⊢
      exact ih limited (idle _)
  | stands =>
      intro phase' mem
      cases List.mem_singleton.mp mem
      trivial
  | lost missing => simp [Progress.rest]
  | ends found first done => simp [Progress.rest]
  | @begins service after shell shell' job evaluation found took waits =>
      intro phase' mem
      cases List.mem_singleton.mp mem
      have fresh (evaluation : Evaluation) (earlier : none = some evaluation) :
          evaluation.wait.Limited service.pipeline.timeout := by
        cases earlier
      exact Look.limited ⟨service.withShell id.shell shell', now, job.request, none⟩ limited fresh
        (congrArg Prod.snd waits)
  | @serves service middle after shell shell' job result deeds progress found took done rest ih =>
      have same := (Look.evaluatesTo done).pipeline
      have kept := (middle.updateShell_attends id.shell fun shell =>
        (shell.finish id.worker job result).arrive id.worker).pipeline
      rw [kept, same] at ih
      exact ih limited trivial
  | @resumes service after job evaluation evaluation' waits =>
      intro phase' mem
      cases List.mem_singleton.mp mem
      refine Look.limited ⟨service, now, job.request, some evaluation⟩ limited ?_ (by rw [waits])
      intro evaluation'' same
      cases same
      exact before
  | @finishes service middle after job evaluation result deeds progress done rest ih =>
      have same := (Look.evaluatesTo done).pipeline
      have kept := (middle.updateShell_attends id.shell fun shell =>
        (shell.finish id.worker job result).arrive id.worker).pipeline
      rw [kept, same] at ih
      exact ih limited trivial

theorem Service.Does.pipeline {governing : Bool} {before after : Service} {deeds : List Deed}
    (does : Service.Does governing before deeds after) : after.pipeline = before.pipeline := by
  induction does with
  | rests rests => exact rests.pipeline
  | governs governs => exact governs.pipeline
  | followed _ _ ih ih' => exact ih'.trans ih
  | _ => rfl

namespace World

variable {beginning world next : World} {happening : Happening} {happenings : List Happening}
  {deeds : List Deed} {after : Service}

theorem Acts.pipeline (acts : Acts world happening deeds after) :
    after.pipeline = world.service.pipeline := by
  cases acts with
  | rests quiet rests => exact rests.pipeline
  | joins => rfl
  | loopStarts governs => exact governs.pipeline
  | worker turn => exact turn.attends.pipeline
  | evaluates look service now => exact service ▸ look.evaluates.pipeline
  | does other does => exact does.does.pipeline
  | drops does => exact does.does.pipeline

theorem Ledger.pipeline (ledger : Ledger beginning happenings world deeds) :
    world.service.pipeline = beginning.service.pipeline := by
  induction ledger with
  | start => rfl
  | step _ _ acts ih => exact acts.pipeline.trans ih

/-- Whoever works waits in a call that does not last for ever. -/
theorem Ledger.limited (ledger : Ledger beginning happenings world deeds)
    (limited : beginning.service.pipeline.Limited) (nobody : beginning.tasks = [])
    (id : WorkerId) (phase : WorkerPhase) (mem : .worker id phase ∈ world.tasks) :
    phase.Limited beginning.service.pipeline.timeout := by
  induction ledger generalizing phase with
  | start =>
      rw [nobody] at mem
      cases mem
  | @step happenings world next happening deeds later earlier step acts ih =>
      rcases step.mem_tasks mem with
        before | fresh | ⟨spawned, -, same⟩ | ⟨activity, here, rfl, kin⟩
      · exact ih phase before
      · cases fresh
      · cases spawned with
        | loop number => cases same
        | worker shell index =>
            cases same
            trivial
      · -- A turn of the same worker, which has looked at evaluations.
        cases kin with
        | @worker _ phase' _ =>
            generalize reached : Progress.waiting (Activity.worker id phase) = left at acts
            cases acts with
            | rests quiet rests => cases quiet
            | @worker _ _ deeds after progress turn =>
                have same := earlier.pipeline
                rw [← same] at limited ih ⊢
                refine turn.limited limited (ih phase' here) phase ?_
                cases progress with
                | done result => cases reached
                | waiting phase'' =>
                    cases reached
                    exact List.mem_singleton_self _
            | does other does => cases other

end World

end DecisionPoint
