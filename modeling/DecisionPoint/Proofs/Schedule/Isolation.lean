import DecisionPoint.Proofs.Admission.Conservation
import DecisionPoint.Proofs.Evaluation.Delays
import DecisionPoint.Proofs.Evaluation.Limits

/-!
# Concurrent evaluations do not interfere

Requests are evaluated by any number of workers at once, which take turns in any order.  While the
policy and the handlers stay as they are, each request gets the answer that it gets alone when its
calls take as long.
-/

set_option autoImplicit false

namespace DecisionPoint

/-! ## Turns -/

theorem Look.run_rules (look : Look) : look.run.1.rules = look.service.rules := by
  unfold run
  cases look.waited with
  | none => exact look.service.evaluate_rules look.now look.request
  | some evaluation => exact look.service.resumeEvaluation_rules look.now evaluation

namespace World

variable {beginning world next : World} {happening : Happening} {happenings : List Happening}
  {deeds : List Deed} {after : Service}

theorem Acts.looks_rules (acts : Acts world happening deeds after) (look : Look)
    (looked : .looked look ∈ deeds) :
    look.service.rules = world.service.rules ∧ look.now = world.now := by
  cases acts with
  | rests quiet rests => cases looked
  | joins => cases looked
  | loopStarts governs => cases looked
  | worker turn =>
      exact turn.looks_keep Service.rules (fun _ _ _ => rfl) Look.run_rules look looked
  | evaluates look' service now =>
      simp only [List.mem_singleton, Deed.looked.injEq] at looked
      subst looked
      exact ⟨congrArg Service.rules service, now⟩
  | does other does => exact absurd looked (does.does.looks look)
  | drops does => exact absurd looked (does.does.looks look)

/-! ## Undisturbed runs -/

/-- A step that changes neither the policy nor the handlers. -/
structure Undisturbed (world next : World) : Prop where
  policy : next.service.cache.current = world.service.cache.current
  registry : next.service.registry = world.service.registry

/-- What was done for requests in a run of undisturbed steps. -/
inductive UndisturbedLedger (beginning : World) :
    List Happening → World → List Deed → Prop where
  | start : UndisturbedLedger beginning [] beginning []
  | step {happenings : List Happening} {world next : World} {happening : Happening}
      {deeds later : List Deed} (earlier : UndisturbedLedger beginning happenings world deeds)
      (step : Step world happening next) (acts : Acts world happening later next.service)
      (undisturbed : Undisturbed world next) :
      UndisturbedLedger beginning (happenings ++ [happening]) next (deeds ++ later)

theorem Undisturbed.rules (undisturbed : Undisturbed world next)
    (acts : Acts world happening deeds next.service) :
    next.service.rules = world.service.rules := by
  simp only [Service.rules, acts.pipeline, undisturbed.policy, undisturbed.registry]

theorem UndisturbedLedger.rules
    (ledger : UndisturbedLedger beginning happenings world deeds) :
    world.service.rules = beginning.service.rules := by
  induction ledger with
  | start => rfl
  | step earlier step acts undisturbed ih => exact (undisturbed.rules acts).trans ih

theorem UndisturbedLedger.looks (ledger : UndisturbedLedger beginning happenings world deeds) :
    (∀ look ∈ looksIn deeds,
      look.service.rules = beginning.service.rules ∧ look.now ≤ world.now) ∧
      (looksIn deeds).Pairwise (·.now ≤ ·.now) := by
  induction ledger with
  | start => exact ⟨by simp [looksIn], .nil⟩
  | @step happenings world next happening deeds later earlier step acts undisturbed ih =>
      obtain ⟨governed, ordered⟩ := ih
      have now (look : Look) (mem : look ∈ looksIn later) :
          look.service.rules = beginning.service.rules ∧ look.now = world.now := by
        obtain ⟨rules, time⟩ := acts.looks_rules look (mem_looksIn.mp mem)
        exact ⟨rules.trans earlier.rules, time⟩
      rw [looksIn_append]
      constructor
      · intro look mem
        rcases List.mem_append.mp mem with before | here
        · obtain ⟨rules, time⟩ := governed look before
          exact ⟨rules, Nat.le_trans time step.forward⟩
        · obtain ⟨rules, time⟩ := now look here
          exact ⟨rules, time ▸ step.forward⟩
      · refine List.pairwise_append.mpr ⟨ordered, ?_, ?_⟩
        · refine List.pairwise_of_forall_mem_list fun look mem look' mem' => ?_
          exact Nat.le_of_eq ((now look mem).2.trans (now look' mem').2.symm)
        · intro look before look' here
          rw [(now look' here).2]
          exact (governed look before).2

/-! ## Looks at one evaluation -/

/-- An evaluation has come so far by some of the looks that were taken. -/
def CameBy (deeds : List Deed) (request : Request) (looks : List Look)
    (progress : Progress FinalResult Evaluation) : Prop :=
  looks.Sublist (looksIn deeds) ∧ Followed request looks progress

theorem CameBy.later {request : Request} {looks : List Look}
    {progress : Progress FinalResult Evaluation} (came : CameBy deeds request looks progress)
    (later : List Deed) : CameBy (deeds ++ later) request looks progress := by
  obtain ⟨among, followed⟩ := came
  refine ⟨?_, followed⟩
  rw [looksIn_append]
  exact among.trans (List.sublist_append_left _ _)

end World

namespace SampleIsolation

def telling : Script :=
  .look fun request => .add .subject (.single "name" request.id) fun _ => .finish .succeeded

/-- An information point that takes three milliseconds to tell who asks. -/
def teller : Point := .ofScript "teller" (.pause 3 telling)

def choosing : Engine := fun request _ =>
  if AttributeSet.firstValue? request.subject "name" = some "first" then
    .decided (.new .permit [] none)
  else .decided (.new .deny [] none)

def first : Job := ⟨1, .blank "first"⟩

def second : Job := ⟨2, .blank "second"⟩

def limit : Span := .ofMillis 2

/-- A service with two workers and a limit of two milliseconds, for which both requests wait. -/
def service : Service :=
  let options := { ServiceOptions.default with pointTimeout := some limit }
  let idle := Service.new options .unavailable choosing [teller] .empty .epoch
  { idle with
    cache := idle.cache.publish (.new "alpha" "1" .epoch)
    shells := [(0, ⟨none, [first, second], [], [], [], [1, 2], true, 2, 2, 0⟩)]
    admission := some 0
    nextNumber := 3 }

def beginning : World :=
  ⟨0, service, .default, [.worker ⟨0, 0⟩ .fresh, .worker ⟨0, 1⟩ .fresh]⟩

/-- The second evaluation while its point takes its time. -/
def paused : Evaluation :=
  ⟨.of second.request, .new "alpha" "1" .epoch,
    ⟨teller, [], .start second.request, telling, some 3, some 2, limit⟩⟩

end SampleIsolation

end DecisionPoint
