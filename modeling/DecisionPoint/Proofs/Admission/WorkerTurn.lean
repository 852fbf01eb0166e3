import DecisionPoint.Proofs.Admission.Life
import DecisionPoint.Service.Requests

/-!
# The turns of workers

`WorkerTurn` says which dealings with its shell the turn of a worker consists of, and which looks at
evaluations it takes in between.
-/

set_option autoImplicit false

namespace DecisionPoint

/-- A look at an evaluation: it begins, or it goes on after it has waited. -/
structure Look where
  service : Service
  now : Nat
  request : Request
  waited : Option Evaluation

def Look.run (look : Look) : Service × Progress FinalResult Evaluation :=
  match look.waited with
  | none => look.service.evaluate look.now look.request
  | some evaluation => look.service.resumeEvaluation look.now evaluation

/-- Something that is done for requests. -/
inductive Deed where
  | opened (number : Nat)
  | dealt (number : Nat) (dealing : Dealing)
  | turnedAway (request : Request)
  | looked (look : Look)

/-! ## Workers -/

/-- The turn of a worker: it stands in line, takes jobs while it comes first, looks at their
evaluations, and goes back to the end of the line. -/
inductive WorkerTurn (now : Nat) (id : WorkerId) :
    WorkerPhase → Service → List Deed → Service → Progress Unit WorkerPhase → Prop where
  | arrives {service after : Service} {deeds : List Deed} {progress : Progress Unit WorkerPhase}
      (rest : WorkerTurn now id .idle
        (service.updateShell id.shell fun shell => shell.arrive id.worker) deeds after progress) :
      WorkerTurn now id .fresh service (.dealt id.shell (.arrived id.worker) :: deeds) after
        progress
  | stands {service : Service} : WorkerTurn now id .idle service [] service (.waiting .idle)
  | lost {service : Service} (missing : service.shell? id.shell = none) :
      WorkerTurn now id .idle service [] service (.done ())
  | ends {service : Service} {shell : Shell} (found : service.shell? id.shell = some shell)
      (first : shell.idle.head? = some id.worker) (done : shell.isDone = true) :
      WorkerTurn now id .idle service [.dealt id.shell (.dismissed id.worker)]
        (service.withShell id.shell (shell.dismiss id.worker)) (.done ())
  | begins {service after : Service} {shell shell' : Shell} {job : Job} {evaluation : Evaluation}
      (found : service.shell? id.shell = some shell)
      (took : shell.take id.worker = some (job, shell'))
      (waits : Look.run ⟨service.withShell id.shell shell', now, job.request, none⟩ =
        (after, .waiting evaluation)) :
      WorkerTurn now id .idle service
        [.dealt id.shell (.took id.worker job),
          .looked ⟨service.withShell id.shell shell', now, job.request, none⟩]
        after (.waiting (.evaluating job evaluation))
  | serves {service middle after : Service} {shell shell' : Shell} {job : Job}
      {result : FinalResult} {deeds : List Deed} {progress : Progress Unit WorkerPhase}
      (found : service.shell? id.shell = some shell)
      (took : shell.take id.worker = some (job, shell'))
      (done : Look.run ⟨service.withShell id.shell shell', now, job.request, none⟩ =
        (middle, .done result))
      (rest : WorkerTurn now id .idle
        (middle.updateShell id.shell fun shell =>
          (shell.finish id.worker job result).arrive id.worker) deeds after progress) :
      WorkerTurn now id .idle service
        (.dealt id.shell (.took id.worker job) ::
          .looked ⟨service.withShell id.shell shell', now, job.request, none⟩ ::
          .dealt id.shell (.finished id.worker job result) :: deeds)
        after progress
  | resumes {service after : Service} {job : Job} {evaluation evaluation' : Evaluation}
      (waits : Look.run ⟨service, now, job.request, some evaluation⟩ =
        (after, .waiting evaluation')) :
      WorkerTurn now id (.evaluating job evaluation) service
        [.looked ⟨service, now, job.request, some evaluation⟩]
        after (.waiting (.evaluating job evaluation'))
  | finishes {service middle after : Service} {job : Job} {evaluation : Evaluation}
      {result : FinalResult} {deeds : List Deed} {progress : Progress Unit WorkerPhase}
      (done : Look.run ⟨service, now, job.request, some evaluation⟩ = (middle, .done result))
      (rest : WorkerTurn now id .idle
        (middle.updateShell id.shell fun shell =>
          (shell.finish id.worker job result).arrive id.worker) deeds after progress) :
      WorkerTurn now id (.evaluating job evaluation) service
        (.looked ⟨service, now, job.request, some evaluation⟩ ::
          .dealt id.shell (.finished id.worker job result) :: deeds)
        after progress

/-- A worker that comes first and can go on has a job to take, or nothing is left to do. -/
theorem Shell.isDone_of_canGoOn (shell : Shell) (worker : Nat) (nothing : shell.take worker = none)
    (goesOn : shell.canGoOn worker = true) :
    shell.idle.head? = some worker ∧ shell.isDone = true := by
  simp only [canGoOn, Bool.and_eq_true, decide_eq_true_eq, Bool.or_eq_true] at goesOn
  obtain ⟨first, waits | done⟩ := goesOn
  · obtain ⟨rest, line⟩ := List.head?_eq_some_iff.mp first
    unfold take at nothing
    rw [line] at nothing
    cases jobs : shell.queue with
    | nil =>
        rw [jobs] at waits
        cases waits
    | cons job queue => simp [jobs] at nothing
  · exact ⟨first, done⟩

namespace Service

variable (service : Service) (now : Nat) (id : WorkerId)

theorem serve_turn (jobs : Nat) :
    ∃ deeds, WorkerTurn now id .idle service deeds (service.serve now id jobs).1
      (service.serve now id jobs).2 := by
  induction jobs generalizing service with
  | zero => exact ⟨[], .stands⟩
  | succ jobs ih =>
      unfold serve
      split
      · next missing => exact ⟨[], .lost missing⟩
      · next shell found =>
          split
          · next nothing =>
              split
              · next goesOn =>
                  obtain ⟨first, done⟩ := shell.isDone_of_canGoOn id.worker nothing goesOn
                  exact ⟨_, .ends found first done⟩
              · exact ⟨[], .stands⟩
          · next job shell' took =>
              split
              · next after evaluation waits => exact ⟨_, .begins found took waits⟩
              · next middle result done =>
                  obtain ⟨deeds, rest⟩ := ih _
                  exact ⟨_, .serves found took done rest⟩

theorem serve_takes {shell shell' : Shell} {job : Job} (jobs : Nat)
    (found : service.shell? id.shell = some shell)
    (took : shell.take id.worker = some (job, shell')) :
    ∃ deeds, WorkerTurn now id .idle service (.dealt id.shell (.took id.worker job) :: deeds)
      (service.serve now id (jobs + 1)).1 (service.serve now id (jobs + 1)).2 := by
  simp only [serve, found, took]
  split
  · next after evaluation waits => exact ⟨_, .begins found took waits⟩
  · next middle result done =>
      obtain ⟨deeds, rest⟩ := serve_turn _ now id jobs
      exact ⟨_, .serves found took done rest⟩

theorem serve_ends {shell : Shell} (jobs : Nat) (found : service.shell? id.shell = some shell)
    (first : shell.idle.head? = some id.worker) (done : shell.isDone = true) :
    WorkerTurn now id .idle service [.dealt id.shell (.dismissed id.worker)]
      (service.serve now id (jobs + 1)).1 (service.serve now id (jobs + 1)).2 := by
  have empty : shell.queue = [] := by
    simp only [Shell.isDone, Bool.and_eq_true, List.isEmpty_iff] at done
    exact done.2
  have nothing : shell.take id.worker = none := by
    unfold Shell.take
    rw [empty]
    cases shell.idle <;> rfl
  have goesOn : shell.canGoOn id.worker = true := by simp [Shell.canGoOn, first, done]
  simp only [serve, found, nothing, goesOn, if_true]
  exact .ends found first done

theorem runWorker_turn (phase : WorkerPhase) :
    ∃ deeds, WorkerTurn now id phase service deeds (service.runWorker now id phase).1
      (service.runWorker now id phase).2 := by
  cases phase with
  | fresh =>
      obtain ⟨deeds, rest⟩ := serve_turn _ now id _
      exact ⟨_, .arrives rest⟩
  | idle => exact service.serve_turn now id _
  | evaluating job evaluation =>
      simp only [runWorker]
      split
      · next after evaluation' waits => exact ⟨_, .resumes waits⟩
      · next middle result done =>
          obtain ⟨deeds, rest⟩ := serve_turn _ now id _
          exact ⟨_, .finishes done rest⟩

end Service

end DecisionPoint
