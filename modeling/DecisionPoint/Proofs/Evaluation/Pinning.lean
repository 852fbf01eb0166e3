import DecisionPoint.Proofs.Evaluation.Looks
import DecisionPoint.Proofs.Schedule.Ledger

/-!
# Evaluations keep their snapshot

An evaluation is pursued through a run from look to look, whoever hosts it and whatever happens in
between.  It decides by the snapshot that was in effect when it began, and its result and the record
of it name that snapshot.
-/

set_option autoImplicit false

namespace DecisionPoint

namespace World

theorem Acts.looks {world : World} {happening : Happening} {deeds : List Deed} {after : Service}
    (acts : Acts world happening deeds after) (look : Look) (looked : .looked look ∈ deeds) :
    look.service.cache = world.service.cache ∧
      ∃ activity progress, happening = .turn activity progress ∧
        look.Continues activity.evaluation? := by
  cases acts with
  | rests quiet rests => cases looked
  | joins => cases looked
  | loopStarts governs => cases looked
  | worker turn =>
      obtain ⟨cache, continues⟩ := turn.looks look looked
      exact ⟨cache, _, _, rfl, continues⟩
  | evaluates look' service now =>
      simp only [List.mem_singleton, Deed.looked.injEq] at looked
      subst looked
      refine ⟨by rw [service], _, _, rfl, ?_⟩
      cases waited : look.waited with
      | none => exact .inl waited
      | some evaluation => exact .inr ⟨evaluation, waited, rfl⟩
  | does other does => exact absurd looked (does.does.looks look)
  | drops does => exact absurd looked (does.does.looks look)

theorem Acts.waiting {world : World} {happening : Happening} {activity activity' : Activity}
    {deeds : List Deed} {after : Service} (acts : Acts world happening deeds after)
    (turn : happening = .turn activity (.waiting activity')) (kin : activity.Kin activity')
    (request : Request) (evaluation : Evaluation)
    (waits : activity'.evaluation? = some (request, evaluation)) :
    ∃ look, .looked look ∈ deeds ∧ look.request = request ∧ look.run.2 = .waiting evaluation := by
  cases acts with
  | rests quiet rests =>
      rw [turn] at quiet
      cases quiet
  | joins => cases turn
  | loopStarts governs => cases turn
  | @worker id phase deeds after progress work =>
      obtain ⟨rfl, reached⟩ := Happening.turn.inj turn
      cases progress with
      | done result => cases reached
      | waiting phase' =>
          cases reached
          cases phase' with
          | evaluating job evaluation' =>
              cases waits
              exact work.waiting job evaluation rfl
          | _ => cases waits
  | evaluates look service now =>
      obtain ⟨rfl, reached⟩ := Happening.turn.inj turn
      unfold Look.progress at reached
      cases seen : look.run.2 with
      | done result =>
          rw [seen] at reached
          cases reached
      | waiting evaluation' =>
          rw [seen] at reached
          cases reached
          cases waits
          exact ⟨look, List.mem_singleton_self _, rfl, seen⟩
  | does other does =>
      -- What does not look at evaluations does not wait in one either.
      obtain ⟨rfl, -⟩ := Happening.turn.inj turn
      have still := kin.isLooking.trans other
      unfold Activity.evaluation? at waits
      split at waits
      · cases still
      · cases still
      · cases waits
  | drops does => cases turn

/-- One evaluation in a run, from look to look: it begins with the policy then in effect, and
whatever happens meanwhile, it goes on where it has waited. -/
inductive Pursuit (beginning : World) (request : Request) (policy : Option PolicySnapshot) :
    List Happening → World → Look → Prop where
  | begins {happenings : List Happening} {world next : World} {happening : Happening}
      {deeds : List Deed} {look : Look} (run : Run beginning happenings world)
      (step : Step world happening next) (acts : Acts world happening deeds next.service)
      (looked : .looked look ∈ deeds) (asked : look.request = request) (new : look.waited = none)
      (inEffect : world.service.cache.current = policy) :
      Pursuit beginning request policy (happenings ++ [happening]) next look
  | goesOn {happenings later : List Happening} {world middle next : World}
      {happening : Happening} {deeds : List Deed} {look look' : Look} {evaluation : Evaluation}
      (earlier : Pursuit beginning request policy happenings world look)
      (waits : look.run.2 = .waiting evaluation) (meanwhile : Run world later middle)
      (step : Step middle happening next) (acts : Acts middle happening deeds next.service)
      (looked : .looked look' ∈ deeds) (asked : look'.request = request)
      (same : look'.waited = some evaluation) :
      Pursuit beginning request policy (happenings ++ later ++ [happening]) next look'

theorem Pursuit.pinned {beginning world : World} {request : Request}
    {policy : Option PolicySnapshot} {happenings : List Happening} {look : Look}
    (pursuit : Pursuit beginning request policy happenings world look) : look.Pinned policy := by
  induction pursuit with
  | @begins happenings world next happening deeds look run step acts looked asked new inEffect =>
      obtain ⟨cache, -⟩ := acts.looks look looked
      have same : look.policy = policy := by
        rw [Look.policy, new, cache, inEffect]
      exact same ▸ look.pinned
  | @goesOn _ _ _ _ _ _ _ look look' evaluation earlier waits meanwhile step acts looked asked same
      ih =>
      have kept : look'.policy = policy := by
        rw [Look.policy, same, (ih.waits evaluation waits).1]
      exact kept ▸ look'.pinned

/-- An evaluation that somebody waits in was pursued from its beginning on. -/
def Pursued (beginning : World) (happenings : List Happening) (world : World) (request : Request)
    (evaluation : Evaluation) : Prop :=
  ∃ policy earlier middle later look, Pursuit beginning request policy earlier middle look ∧
    look.run.2 = .waiting evaluation ∧ Run middle later world ∧ earlier ++ later = happenings

theorem Pursued.step {beginning world next : World} {happenings : List Happening}
    {happening : Happening} {request : Request} {evaluation : Evaluation}
    (pursued : Pursued beginning happenings world request evaluation)
    (step : Step world happening next) :
    Pursued beginning (happenings ++ [happening]) next request evaluation := by
  obtain ⟨policy, earlier, middle, later, look, pursuit, seen, rest, whole⟩ := pursued
  refine ⟨policy, earlier, middle, later ++ [happening], look, pursuit, seen, rest.step step, ?_⟩
  rw [← List.append_assoc, whole]

/-- A look begins an evaluation or goes on with one that was pursued so far. -/
theorem Acts.pursues {beginning world next : World} {happenings : List Happening}
    {happening : Happening} {deeds : List Deed} (run : Run beginning happenings world)
    (pursued : ∀ activity ∈ world.tasks, ∀ request evaluation,
      activity.evaluation? = some (request, evaluation) →
        Pursued beginning happenings world request evaluation)
    (step : Step world happening next) (acts : Acts world happening deeds next.service)
    (look : Look) (looked : .looked look ∈ deeds) :
    ∃ policy, Pursuit beginning look.request policy (happenings ++ [happening]) next look := by
  obtain ⟨-, activity, progress, rfl, continues⟩ := acts.looks look looked
  rcases continues with new | ⟨evaluation, waited, hosted⟩
  · exact ⟨_, .begins run step acts looked rfl new rfl⟩
  · have present : activity ∈ world.tasks := by
      cases step with
      | turns left right _ _ _ split _ => simp [split]
      | overlooks left right number phase phase' cache journal split _ => simp [split]
    obtain ⟨policy, earlier, middle, later, look', pursuit, seen, rest, rfl⟩ :=
      pursued activity present look.request evaluation hosted
    exact ⟨policy, .goesOn pursuit seen rest step acts looked rfl waited⟩

theorem Run.pursued {beginning world : World} {happenings : List Happening}
    (run : Run beginning happenings world)
    (nothing : ∀ activity ∈ beginning.tasks, activity.evaluation? = none) :
    ∀ activity ∈ world.tasks, ∀ request evaluation,
      activity.evaluation? = some (request, evaluation) →
        Pursued beginning happenings world request evaluation := by
  induction run with
  | start =>
      intro activity mem request evaluation waits
      rw [nothing activity mem] at waits
      cases waits
  | step run step ih =>
      intro activity mem request evaluation waits
      rcases step.mem_tasks mem with before | fresh | ⟨spawned, -, rfl⟩ | ⟨_, -, rfl, kin⟩
      · exact (ih activity before request evaluation waits).step step
      · rw [activity.evaluation?_of_isFresh fresh] at waits
        cases waits
      · cases spawned <;> cases waits
      · -- The activity whose turn it was has looked at its evaluation.
        obtain ⟨deeds, acts⟩ := step.acts
        obtain ⟨look, looked, asked, seen⟩ := acts.waiting rfl kin request evaluation waits
        obtain ⟨policy, pursuit⟩ := acts.pursues run ih step look looked
        exact ⟨policy, _, _, [], look, asked ▸ pursuit, seen, .start, List.append_nil _⟩

theorem Run.pursues {beginning world next : World} {happenings : List Happening}
    {happening : Happening} {deeds : List Deed} (run : Run beginning happenings world)
    (nothing : ∀ activity ∈ beginning.tasks, activity.evaluation? = none)
    (step : Step world happening next) (acts : Acts world happening deeds next.service)
    (look : Look) (looked : .looked look ∈ deeds) :
    ∃ policy, Pursuit beginning look.request policy (happenings ++ [happening]) next look :=
  acts.pursues run (run.pursued nothing) step look looked

theorem Acts.records {world : World} {happening : Happening} {deeds : List Deed}
    {after : Service} (acts : Acts world happening deeds after) :
    world.service.Records after (looksIn deeds) := by
  cases acts with
  | rests quiet rests => exact .ofSame (by rw [rests.calls]) rests.policy.audit
  | joins => exact .ofSame rfl rfl
  | loopStarts governs => exact .ofSame governs.decisions governs.audit
  | worker turn => exact turn.records
  | evaluates look service now => exact service ▸ Service.Records.ofLook look
  | does other does => exact does.does.records
  | drops does => exact does.does.records

end World

/-! ## Whole runs -/

/-- In every run, each look at an evaluation belongs to one that began before with the snapshot then
in effect, and it keeps to that snapshot: the engine is asked by it, and the result and its record
name it.  The engine is asked, and records are made, at such looks only. -/
theorem evaluations_keep_their_snapshot (service : Service) (surroundings : Surroundings)
    (happenings : List Happening) (world next : World) (happening : Happening)
    (run : World.Run (.start service surroundings) happenings world)
    (step : World.Step world happening next) :
    (∃ deeds, World.Acts world happening deeds next.service) ∧
      ∀ deeds, World.Acts world happening deeds next.service →
        (∀ look, .looked look ∈ deeds →
          (∃ request policy, World.Pursuit (.start service surroundings) request policy
            (happenings ++ [happening]) next look) ∧
          ∀ request policy, World.Pursuit (.start service surroundings) request policy
            (happenings ++ [happening]) next look → look.Pinned policy) ∧
        world.service.Records next.service (looksIn deeds) := by
  refine ⟨step.acts, ?_⟩
  intro deeds acts
  refine ⟨?_, acts.records⟩
  intro look looked
  obtain ⟨policy, pursuit⟩ := run.pursues (by simp [World.start]) step acts look looked
  exact ⟨⟨look.request, policy, pursuit⟩, fun request policy pursuit => pursuit.pinned⟩

/-! ## An evaluation that outlasts its snapshot -/

namespace SamplePinning

def first : PolicySnapshot := .new "alpha" "1" .epoch

def second : PolicySnapshot := .new "alpha" "2" .epoch

/-- An information point that takes three milliseconds. -/
def clock : Point := .ofScript "clock" (.pause 3 (.finish .succeeded))

def permitting : Engine := fun _ _ => .decided (.new .permit [] none)

/-- A service with the first snapshot, whose source has the second. -/
def service : Service :=
  let idle := Service.new .default (.always (.ok second)) permitting [clock] .empty .epoch
  { idle with cache := idle.cache.publish first }

def beginning : World := .start service .default

def request : Request := .blank "r"

def opening : Look := ⟨service, 0, request, none⟩

def paused : Evaluation :=
  match opening.run.2 with
  | .waiting evaluation => evaluation
  | .done _ => default

def waiting : World := ⟨0, opening.run.1, .default, [.evaluating request (some paused)]⟩

def refreshed : Service :=
  (Activity.part waiting.service .default 0 (.refreshing none none)).1

def closing : Look := ⟨refreshed, 3, request, some paused⟩

end SamplePinning

open SamplePinning in
/-- While its information point takes its time a newer snapshot is published, and the request is
decided by the first one. -/
theorem first_snapshot_decides :
    ∃ happenings world next result,
      World.Run beginning happenings world ∧ world.service.cache.current = some second ∧
      World.Step world (.turn (.evaluating request (some paused)) closing.progress) next ∧
      closing.service = world.service ∧ closing.Pinned (some first) ∧
      closing.run.2 = .done result ∧ result.failure = none ∧
      result.policy = some first.reference := by
  have begun : World.Run beginning _ ⟨0, service, .default, [.evaluating request none]⟩ :=
    .step .start (.begins (.evaluating request none) rfl)
  have waits : World.Step ⟨0, service, .default, [.evaluating request none]⟩
      (.turn (.evaluating request none) opening.progress) waiting :=
    .turns [] [] _ _ _ rfl rfl
  have pursuit : World.Pursuit beginning request (some first) _ waiting opening :=
    .begins begun waits (.evaluates opening rfl rfl) (List.mem_singleton_self _) rfl rfl rfl
  have meanwhile : World.Run waiting _
      ⟨3, refreshed, .default, [.evaluating request (some paused)]⟩ :=
    .step (.step (.step .start (.begins (.refreshing none none) rfl))
      (.turns [_] [] (.refreshing none none) _ _ rfl rfl)) (.time 3 (by decide))
  have ends : World.Step ⟨3, refreshed, .default, [.evaluating request (some paused)]⟩
      (.turn (.evaluating request (some paused)) closing.progress)
      ⟨3, closing.run.1, .default, []⟩ :=
    .turns [] [] _ _ _ rfl rfl
  have whole := (World.Run.step begun waits).trans meanwhile
  have pinned := ((evaluations_keep_their_snapshot service .default _ _ _ _ whole ends).2 _
    (.evaluates closing rfl rfl)).1 closing (List.mem_singleton_self _)
  have kept := pinned.2 request (some first)
    (.goesOn pursuit rfl meanwhile ends (.evaluates closing rfl rfl) (List.mem_singleton_self _)
      rfl rfl)
  exact ⟨_, _, _, _, whole, rfl, ends, rfl, kept, rfl, rfl, kept.names _ rfl⟩

end DecisionPoint