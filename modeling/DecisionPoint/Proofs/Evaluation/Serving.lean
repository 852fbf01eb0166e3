import DecisionPoint.Proofs.Evaluation.Looks

/-!
# What evaluations leave alone

Whoever evaluates requests changes neither the policy nor anything that starting and stopping do.
Between its looks a worker changes the shells only.
-/

set_option autoImplicit false

namespace DecisionPoint

def Call.isGoverning : Call → Bool
  | start _ | stop _ => true
  | _ => false

/-- The starts and stops of information points, in order. -/
def governingCalls (calls : List Call) : List Call := calls.filter Call.isGoverning

theorem governingCalls_append (calls more : List Call) :
    governingCalls (calls ++ more) = governingCalls calls ++ governingCalls more :=
  List.filter_append ..

theorem Pipeline.OnlyEnriches.governing {work : Pipeline.Enriching}
    (enriches : Pipeline.OnlyEnriches work) : governingCalls work.calls = [] := by
  rw [governingCalls, List.filter_eq_nil_iff]
  intro call mem
  obtain ⟨point, request, rfl⟩ := enriches.1 call mem
  simp [Call.isGoverning]

theorem Pipeline.conclude_governing (pipeline : Pipeline) (registry : HandlerRegistry)
    (policy : PolicySnapshot) (request : Request) :
    governingCalls (pipeline.conclude registry policy request).calls = [] := by
  have fulfilments (calls : List (Handler × Obligation)) (outcome : Outcome) :
      governingCalls (calls.map fun item => .fulfil item.1 item.2 outcome request) = [] := by
    rw [governingCalls, List.filter_eq_nil_iff]
    intro call mem
    obtain ⟨item, -, rfl⟩ := List.mem_map.mp mem
    simp [Call.isGoverning]
  unfold conclude
  simp only
  split
  · rfl
  · split <;> exact fulfilments _ _

theorem Journal.completed_rejections (journal : Journal) (result : FinalResult) :
    (journal.completed result).rejections = journal.rejections := by
  cases kept : journal.evaluationStatus <;>
    simp [completed, countEvaluation, rejections, counted, ServiceStatus.recordRequest, kept]

namespace Service

structure Attends (before after : Service) : Prop where
  options : after.options = before.options
  pipeline : after.pipeline = before.pipeline
  cache : after.cache = before.cache
  admission : after.admission = before.admission
  stopping : after.stopping = before.stopping
  ended : after.ended = before.ended
  spawned : after.spawned = before.spawned
  governing : governingCalls after.calls = governingCalls before.calls
  rejections : after.journal.rejections = before.journal.rejections
  numbers : before.nextNumber ≤ after.nextNumber

/-- Requests are attended to away from the shells. -/
structure Evaluates (before after : Service) : Prop extends Attends before after where
  shells : after.shells = before.shells

theorem Attends.refl (service : Service) : service.Attends service :=
  ⟨rfl, rfl, rfl, rfl, rfl, rfl, rfl, rfl, rfl, Nat.le_refl _⟩

theorem Attends.trans {a b c : Service} (first : a.Attends b) (second : b.Attends c) :
    a.Attends c :=
  ⟨second.options.trans first.options, second.pipeline.trans first.pipeline,
    second.cache.trans first.cache, second.admission.trans first.admission,
    second.stopping.trans first.stopping, second.ended.trans first.ended,
    second.spawned.trans first.spawned, second.governing.trans first.governing,
    second.rejections.trans first.rejections, Nat.le_trans first.numbers second.numbers⟩

theorem Evaluates.trans {a b c : Service} (first : a.Evaluates b) (second : b.Evaluates c) :
    a.Evaluates c :=
  ⟨first.toAttends.trans second.toAttends, second.shells.trans first.shells⟩

theorem withShell_attends (service : Service) (number : Nat) (shell : Shell) :
    service.Attends (service.withShell number shell) :=
  ⟨rfl, rfl, rfl, rfl, rfl, rfl, rfl, rfl, rfl, Nat.le_refl _⟩

theorem updateShell_attends (service : Service) (number : Nat) (update : Shell → Shell) :
    service.Attends (service.updateShell number update) := by
  unfold updateShell
  split
  · exact .refl service
  · exact service.withShell_attends number _

/-! ## Looks -/

section Functions

variable (service : Service) (now : Nat)

theorem complete_evaluates (occasion : Occasion) (policy : Option PolicySnapshot)
    (verdict : Verdict) :
    service.Evaluates (service.complete now occasion policy verdict).1 := by
  refine ⟨⟨rfl, rfl, rfl, rfl, rfl, rfl, rfl, rfl, ?_, Nat.le_succ _⟩, rfl⟩
  simp only [complete, freshNumber, Journal.completed_rejections]
  split <;> rfl

theorem called_evaluates (calls : List Call) (none : governingCalls calls = []) :
    service.Evaluates (service.called calls) := by
  refine ⟨⟨rfl, rfl, rfl, rfl, rfl, rfl, rfl, ?_, rfl, Nat.le_refl _⟩, rfl⟩
  rw [called, governingCalls_append, none, List.append_nil]

theorem proceed_evaluates (occasion : Occasion) (policy : PolicySnapshot)
    (work : Pipeline.Enriching) (enriches : Pipeline.OnlyEnriches work) :
    service.Evaluates (service.proceed now occasion policy work).1 := by
  have called := service.called_evaluates work.calls enriches.governing
  unfold proceed
  simp only
  split
  · exact called
  · exact called.trans (complete_evaluates _ now occasion (some policy) _)
  · next request _ =>
      have asked := (service.called work.calls).called_evaluates _
        (service.pipeline.conclude_governing service.registry policy request)
      refine called.trans (asked.trans (.trans ?_ (complete_evaluates _ now occasion _ _)))
      exact ⟨⟨rfl, rfl, rfl, rfl, rfl, rfl, rfl, rfl, rfl, Nat.le_refl _⟩, rfl⟩

end Functions

end Service

theorem Look.evaluates (look : Look) : look.service.Evaluates look.run.1 := by
  unfold run
  cases look.waited with
  | none =>
      simp only [Service.evaluate]
      split
      · exact look.service.complete_evaluates look.now (.of look.request) none
          (.failed .policyUnavailable none)
      · exact look.service.proceed_evaluates look.now _ _ _
          (Pipeline.enrichBy_onlyEnriches _ look.now _ look.request)
  | some evaluation =>
      exact look.service.proceed_evaluates look.now _ _ _
        (Pipeline.resumeEnriching_onlyEnriches _ look.now evaluation.wait)

theorem Look.evaluatesTo {look : Look} {after : Service}
    {progress : Progress FinalResult Evaluation} (ran : look.run = (after, progress)) :
    look.service.Evaluates after := by
  have evaluates := look.evaluates
  rw [ran] at evaluates
  exact evaluates

/-! ## Workers -/

theorem WorkerTurn.attends {now : Nat} {id : WorkerId} {phase : WorkerPhase}
    {service after : Service} {deeds : List Deed} {progress : Progress Unit WorkerPhase}
    (turn : WorkerTurn now id phase service deeds after progress) : service.Attends after := by
  induction turn with
  | arrives rest ih => exact (Service.updateShell_attends _ _ _).trans ih
  | stands => exact .refl _
  | lost missing => exact .refl _
  | ends found first done => exact Service.withShell_attends _ _ _
  | begins found took waits =>
      exact (Service.withShell_attends _ _ _).trans (Look.evaluatesTo waits).toAttends
  | serves found took done rest ih =>
      have taken := (Service.withShell_attends _ _ _).trans (Look.evaluatesTo done).toAttends
      exact taken.trans ((Service.updateShell_attends _ _ _).trans ih)
  | resumes waits => exact (Look.evaluatesTo waits).toAttends
  | finishes done rest ih =>
      exact (Look.evaluatesTo done).toAttends.trans ((Service.updateShell_attends _ _ _).trans ih)

end DecisionPoint
