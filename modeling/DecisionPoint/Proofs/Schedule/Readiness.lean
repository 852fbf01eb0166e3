import Mathlib.Logic.Relation
import Mathlib.Tactic.Choose
import DecisionPoint.Proofs.Policy.GateCourse
import DecisionPoint.Proofs.Schedule.Fetching
import DecisionPoint.Proofs.Schedule.Looping

/-!
# The gate among other activities

A gate takes its turns while others do what they like, or while they leave the cache alone.  In
either case it makes no more attempts than it may, and none after a policy is there.  If it is left
alone and goes on as soon as it can, it does what `GateTerms.course` says.
-/

set_option autoImplicit false

namespace DecisionPoint

/-- A gate in a world: where it stands and what it has done. -/
structure GateView where
  world : World
  progress : Progress Bool (Option GatePhase)
  account : GateAccount

namespace GateView

section Steps

variable (retries backoff : Nat)

inductive Turn : GateView → GateView → Prop where
  | turns {world next : World} {gate : Option GatePhase} {account : GateAccount}
      {progress : Progress Bool GatePhase}
      (step : World.Step world (.turn (.gating retries backoff gate)
        (progress.map .ready fun phase => .gating retries backoff (some phase))) next) :
      Turn ⟨world, .waiting gate, account⟩
        ⟨next, progress.map id some, account ++ .stamped world.now
          (world.service.cache.tellTurn world.service.journal world.now backoff retries gate).1⟩

/-- One step of a world with a gate; `others` says what may happen beside its turns. -/
inductive Step (others : World → Option GatePhase → World → Prop) : GateView → GateView → Prop where
  | turn {view next : GateView} (turn : Turn retries backoff view next) : Step others view next
  | meanwhile {world next : World} {happening : Happening} {gate : Option GatePhase}
      {account : GateAccount} (step : World.Step world happening next)
      (kept : .gating retries backoff gate ∈ next.tasks) (calm : others world gate next) :
      Step others ⟨world, .waiting gate, account⟩ ⟨next, .waiting gate, account⟩

/-- From one view of the gate to a later one. -/
abbrev Path (others : World → Option GatePhase → World → Prop) : GateView → GateView → Prop :=
  Relation.ReflTransGen (Step retries backoff others)

end Steps

def begun (world : World) : GateView := ⟨world, .waiting none, []⟩

/-- Nobody else refreshes, and no time passes while the gate could go on. -/
structure LeftAlone (world : World) (gate : Option GatePhase) (next : World) : Prop where
  current : next.service.cache.current = world.service.cache.current
  refreshing : next.service.cache.refreshing = world.service.cache.refreshing
  options : next.service.cache.options = world.service.cache.options
  inTime : ∀ wake, GatePhase.wakeOf world.now gate = some wake → next.now ≤ max world.now wake

variable {retries backoff : Nat} {others : World → Option GatePhase → World → Prop}
  {world next : World} {gate : Option GatePhase} {view later : GateView}

theorem part_gating (retries backoff : Nat) (gate : Option GatePhase) (service : Service)
    (surroundings : Surroundings) (now : Nat) :
    (Activity.gating retries backoff gate).part service surroundings now =
      Activity.afterGate service retries backoff
        (service.cache.gateTurn service.journal now backoff retries gate) := by
  cases gate <;> rfl

theorem exists_turn (here : .gating retries backoff gate ∈ world.tasks) :
    ∃ next, ∃ progress : Progress Bool GatePhase, World.Step world (.turn
      (.gating retries backoff gate)
      (progress.map .ready fun phase => .gating retries backoff (some phase))) next := by
  obtain ⟨left, right, split⟩ := List.append_of_mem here
  have part := part_gating retries backoff gate world.service world.surroundings world.now
  generalize world.service.cache.gateTurn world.service.journal world.now backoff retries gate =
    run at part
  obtain ⟨cache, journal, progress⟩ := run
  cases progress with
  | done value => exact ⟨_, .done value, .turns left right _ _ _ split part⟩
  | waiting phase => exact ⟨_, .waiting phase, .turns left right _ _ _ split part⟩

theorem turn_tells {progress : Progress Bool GatePhase}
    (step : World.Step world (.turn (.gating retries backoff gate)
      (progress.map .ready fun phase => .gating retries backoff (some phase))) next) :
    (∃ moves, world.service.cache.tellTurn world.service.journal world.now backoff retries gate =
      (moves, next.service.cache, next.service.journal, progress)) ∧
    next.now = world.now ∧
    ∀ phase, progress = .waiting phase → .gating retries backoff (some phase) ∈ next.tasks := by
  generalize reached : progress.map Answer.ready (fun phase => Activity.gating retries backoff
    (some phase)) = answer at step
  have told := world.service.cache.tellTurn_run world.service.journal world.now backoff retries gate
  cases step with
  | turns left right _ service _ split ran =>
      rw [part_gating, ← told] at ran
      generalize world.service.cache.tellTurn world.service.journal world.now backoff retries gate =
        telling at ran ⊢
      obtain ⟨moves, cache, journal, progress'⟩ := telling
      cases progress' with
      | done value =>
          cases ran
          cases progress with
          | done value' =>
              cases reached
              exact ⟨⟨moves, rfl⟩, rfl, nofun⟩
          | waiting phase' => cases reached
      | waiting phase =>
          cases ran
          cases progress with
          | done value' => cases reached
          | waiting phase' =>
              cases reached
              refine ⟨⟨moves, rfl⟩, rfl, ?_⟩
              intro phase' same
              cases same
              simp [Progress.rest]

/-! ## Whatever others do -/

/-- How many attempts the gate may still make. -/
def left (retries : Nat) (view : GateView) : Nat :=
  match view.progress with
  | .done _ => 0
  | .waiting gate => gate.elim retries GatePhase.remaining

/-- What holds of a gate at any time: it has made no more attempts than it may, each while there
was no policy, it can go on sooner or later, and it returns whether there is a policy. -/
structure Honest (retries backoff : Nat) (view : GateView) : Prop where
  counted : view.account.attempts + view.left retries ≤ retries
  empty : ∀ time found fetch, (time, .attempts found fetch) ∈ view.account → found = none
  here : ∀ gate, view.progress = .waiting gate → .gating retries backoff gate ∈ view.world.tasks
  wakes : ∀ phase, view.progress = .waiting (some phase) → phase.wake.isSome = true
  returned : ∀ value, view.progress = .done value → view.world.service.cache.isReady = value

theorem Honest.turn (honest : view.Honest retries backoff)
    (turn : Turn retries backoff view later) : later.Honest retries backoff := by
  cases turn with
  | @turns world next gate account progress step =>
      obtain ⟨⟨moves, told⟩, -, stays⟩ := turn_tells step
      have telling := world.service.cache.tellTurn_honest world.service.journal world.now backoff
        retries gate
      have run := world.service.cache.tellTurn_run world.service.journal world.now backoff retries
        gate
      rw [told] at telling run ⊢
      have counted := telling.counted
      have before := honest.counted
      refine ⟨?_, ?_, ?_, ?_, ?_⟩
      · simp only [GateAccount.attempts, GateAccount.tally_append, GateAccount.tally_stamped, left]
          at before counted ⊢
        cases progress with
        | done value =>
            simp only [Progress.map, Progress.attemptsLeft] at counted ⊢
            omega
        | waiting phase =>
            simp only [Progress.map, Progress.attemptsLeft, Option.elim_some] at counted ⊢
            omega
      · intro time found fetch mem
        rcases List.mem_append.mp mem with earlier | just
        · exact honest.empty time found fetch earlier
        · obtain ⟨move, mem', same⟩ := List.mem_map.mp just
          cases same
          exact telling.empty found fetch mem'
      · intro gate' same
        cases progress with
        | done value => cases same
        | waiting phase =>
            cases same
            exact stays phase rfl
      · intro phase' same
        cases progress with
        | done value => cases same
        | waiting phase =>
            cases same
            refine PolicyCache.gateTurn_wakes ?_ (congrArg (fun run => run.2.2) run.symm)
            intro waits same
            subst same
            exact honest.wakes waits rfl
      · intro value same
        cases progress with
        | done value' =>
            cases same
            exact telling.returned value' rfl
        | waiting phase => cases same

theorem Honest.step (honest : view.Honest retries backoff)
    (step : Step retries backoff others view later) : later.Honest retries backoff := by
  cases step with
  | turn turn => exact honest.turn turn
  | meanwhile step kept calm =>
      refine ⟨honest.counted, honest.empty, ?_, ?_, nofun⟩
      · intro gate same
        cases same
        exact kept
      · intro phase same
        exact honest.wakes phase same

theorem Honest.path (honest : view.Honest retries backoff)
    (path : Path retries backoff others view later) : later.Honest retries backoff := by
  induction path with
  | refl => exact honest
  | tail _ step ih => exact ih.step step

theorem begun_honest (here : .gating retries backoff none ∈ world.tasks) :
    (begun world).Honest retries backoff := by
  refine ⟨Nat.le_of_eq (Nat.zero_add _), nofun, ?_, nofun, nofun⟩
  intro gate same
  cases same
  exact here

/-! ## A policy that is there -/

/-- Once there is a policy it stays, and the gate makes no more attempts and no more pauses. -/
theorem Step.ready (step : Step retries backoff others view later)
    (ready : view.world.service.cache.isReady = true) :
    later.world.service.cache.isReady = true ∧ later.account.attempts = view.account.attempts ∧
      later.account.pauses = view.account.pauses := by
  have stays {world next : World} {happening : Happening} (step : World.Step world happening next)
      (ready : world.service.cache.isReady = true) : next.service.cache.isReady = true := by
    obtain ⟨events, holds, holds', moves⟩ := step.moves
    exact moves.drives.ready ready
  cases step with
  | turn turn =>
      cases turn with
      | @turns world next gate account progress step =>
          have idle := world.service.cache.tellTurn_ready world.service.journal world.now backoff
            retries gate ready
          refine ⟨stays step ready, ?_, ?_⟩
          · simp only [GateAccount.attempts, GateAccount.tally_append, GateAccount.tally_stamped,
              Nat.add_eq_left, List.countP_eq_zero]
            intro move mem
            simp [(idle move mem).1]
          · simp only [GateAccount.pauses, GateAccount.tally_append, GateAccount.tally_stamped,
              Nat.add_eq_left, List.countP_eq_zero]
            intro move mem
            simp [(idle move mem).2]
  | meanwhile step kept calm => exact ⟨stays step ready, rfl, rfl⟩

theorem Path.ready (path : Path retries backoff others view later)
    (ready : view.world.service.cache.isReady = true) :
    later.world.service.cache.isReady = true ∧ later.account.attempts = view.account.attempts ∧
      later.account.pauses = view.account.pauses := by
  induction path with
  | refl => exact ⟨ready, rfl, rfl⟩
  | tail _ step ih =>
      obtain ⟨ready', attempts, pauses⟩ := ih
      obtain ⟨ready'', attempts', pauses'⟩ := step.ready ready'
      exact ⟨ready'', attempts'.trans attempts, pauses'.trans pauses⟩

/-- If there is a policy when the gate begins, it returns with its first turn and does nothing. -/
theorem Path.ready_atOnce (path : Path retries backoff others (begun world) view)
    (ready : world.service.cache.isReady = true) :
    (view.progress = .waiting none ∧ view.account = []) ∨
      (view.progress = .done true ∧ ∃ time, view.account = [(time, .returns true)]) := by
  induction path with
  | refl => exact .inl ⟨rfl, rfl⟩
  | @tail view later earlier step ih =>
      have ready' := (Path.ready earlier ready).1
      obtain ⟨world', progress', account'⟩ := view
      rcases ih with ⟨rfl, rfl⟩ | ⟨rfl, -⟩
      · cases step with
        | turn turn =>
            cases turn with
            | @turns _ next _ _ progress step =>
                obtain ⟨⟨moves, told⟩, -, -⟩ := turn_tells step
                have atOnce := world'.service.cache.tellGate_ready world'.service.journal world'.now
                  backoff ready' retries
                rw [PolicyCache.tellTurn, atOnce] at told
                simp only [Prod.mk.injEq] at told
                obtain ⟨-, -, -, rfl⟩ := told
                refine .inr ⟨rfl, world'.now, ?_⟩
                rw [PolicyCache.tellTurn, atOnce]
                rfl
        | meanwhile step kept calm => exact .inl ⟨rfl, rfl⟩
      · cases step with
        | turn turn => cases turn

/-- What the account tells of a turn is what the turn does to the cache. -/
def Drives (view next : GateView) : Prop :=
  ∃ moves holds holds', next.account = view.account ++ .stamped view.world.now moves ∧
    DecisionPoint.Drives holds view.world.state (moves.filterMap GateMove.event?) holds'
      next.world.state

theorem Turn.drives (turn : Turn retries backoff view later) : Drives view later := by
  cases turn with
  | @turns world next gate account progress step =>
      obtain ⟨⟨moves, told⟩, -, -⟩ := turn_tells step
      have drives := world.service.cache.tellTurn_drives world.service.journal world.now backoff
        retries gate
      rw [told] at drives ⊢
      exact ⟨moves, _, _, rfl, drives⟩

/-! ## A gate that is left alone -/

/-- The gate has done the first part of its course, and stands where the rest begins. -/
structure Keeps (terms : GateTerms) (retries : Nat) (course : GateCourse) (view : GateView) :
    Prop where
  limited : view.world.service.cache.options.fetchTimeout = terms.limit
  stands : ∃ rest, course = .following view.account rest ∧
    terms.Stands retries view.world.service.cache view.world.now view.account.calls view.progress
      rest

variable {terms : GateTerms} {course : GateCourse}

theorem Keeps.step (keeps : Keeps terms retries course view)
    (step : Step retries terms.backoff LeftAlone view later)
    (follows : GateAccount.Follows terms.answers 0 later.account) :
    Keeps terms retries course later := by
  obtain ⟨limited, rest, same, stands⟩ := keeps
  cases step with
  | turn turn =>
      cases turn with
      | @turns world next gate account progress step =>
          obtain ⟨⟨moves, told⟩, still, -⟩ := turn_tells step
          have run := world.service.cache.tellTurn_run world.service.journal world.now
            terms.backoff retries gate
          have options := world.service.cache.gateTurn_options world.service.journal world.now
            terms.backoff retries gate
          rw [GateAccount.follows_append, Nat.zero_add] at follows
          obtain ⟨rest', same', stands'⟩ := stands.turn limited follows.2
          rw [← run] at options
          rw [told] at options same' stands' ⊢
          refine ⟨options ▸ limited, rest', ?_, ?_⟩
          · rw [same, same', GateCourse.following_append]
          · simp only [still, GateAccount.calls, GateAccount.tally_append] at stands' ⊢
            exact stands'
  | meanwhile step kept alone =>
      exact ⟨alone.options ▸ limited, rest, same,
        stands.later alone.current alone.refreshing step.forward alone.inTime⟩

theorem Path.follows {answers : Nat → SourceAnswer} (step : Step retries backoff others view later)
    (follows : GateAccount.Follows answers 0 later.account) :
    GateAccount.Follows answers 0 view.account := by
  cases step with
  | turn turn =>
      cases turn with
      | turns step => exact ((GateAccount.follows_append _ _ _ _).mp follows).1
  | meanwhile step kept calm => exact follows

theorem Path.keeps (terms : GateTerms)
    (path : Path retries terms.backoff LeftAlone (begun world) view)
    (limited : world.service.cache.options.fetchTimeout = terms.limit)
    (free : world.service.cache.refreshing = false) (empty : world.service.cache.current = none)
    (follows : GateAccount.Follows terms.answers 0 view.account) :
    Keeps terms retries (terms.course 0 world.now retries) view := by
  induction path with
  | refl => exact ⟨limited, _, rfl, .fresh free empty⟩
  | tail _ step ih => exact (ih (Path.follows step follows)).step step follows

/-! ## The gate returns -/

/-- Whatever the source does from turn to turn, the gate returns if it goes on whenever it can. -/
inductive Returns (retries backoff : Nat) : GateView → Prop where
  | done {view : GateView} {value : Bool} (returned : view.progress = .done value) :
      Returns retries backoff view
  | goesOn {view : GateView} (ready next : ScriptedSource → GateView)
      (path : ∀ source, Path retries backoff LeftAlone view (ready source))
      (meets : ∀ source, (ready source).world.service.cache.source = source)
      (turn : ∀ source, Turn retries backoff (ready source) (next source))
      (returns : ∀ source, Returns retries backoff (next source)) : Returns retries backoff view

/-- Time passes until the gate can go on, and the source is as it may be then. -/
theorem Honest.awaits (honest : view.Honest retries backoff) (waits : view.progress = .waiting gate)
    (source : ScriptedSource) :
    ∃ ready, Path retries backoff LeftAlone view ready ∧ ready.progress = .waiting gate ∧
      ready.world.service.cache.source = source ∧
      hasCome ready.world.now (GatePhase.wakeOf ready.world.now gate) = true := by
  obtain ⟨world, progress, account⟩ := view
  cases waits
  have here := honest.here gate rfl
  obtain ⟨wake, wakes⟩ : ∃ wake, GatePhase.wakeOf world.now gate = some wake := by
    cases gate with
    | none => exact ⟨world.now, rfl⟩
    | some phase => exact Option.isSome_iff_exists.mp (honest.wakes phase rfl)
  have changes : Step retries backoff LeftAlone ⟨world, .waiting gate, account⟩ _ :=
    .meanwhile (.source source) here ⟨rfl, rfl, rfl, fun _ _ => Nat.le_max_left _ _⟩
  refine ⟨_, .tail (.single changes) (.meanwhile (.time (max world.now wake) (Nat.le_max_left _ _))
    here ⟨rfl, rfl, rfl, ?_⟩), rfl, rfl, ?_⟩
  · intro wake' wakes'
    rw [wakes] at wakes'
    cases wakes'
    exact Nat.le_refl _
  · cases gate with
    | none => exact decide_eq_true (Nat.le_refl _)
    | some phase =>
        simp only [GatePhase.wakeOf, Option.elim_some] at wakes ⊢
        rw [wakes]
        exact decide_eq_true (Nat.le_max_right _ _)

def distance (retries : Nat) (view : GateView) : Nat :=
  match view.progress with
  | .done _ => 0
  | .waiting gate => gate.elim (2 * retries + 1) GatePhase.distance

theorem Honest.nearer (honest : view.Honest retries backoff) (waits : view.progress = .waiting gate)
    (come : hasCome view.world.now (GatePhase.wakeOf view.world.now gate) = true) :
    ∃ next, Turn retries backoff view next ∧
      (next.progress.isDone = true ∨ next.distance retries < view.distance retries) := by
  obtain ⟨world, progress, account⟩ := view
  cases waits
  obtain ⟨next, progress, step⟩ := exists_turn (honest.here gate rfl)
  refine ⟨_, .turns step, ?_⟩
  obtain ⟨⟨moves, told⟩, -, -⟩ := turn_tells step
  have run := world.service.cache.tellTurn_run world.service.journal world.now backoff retries gate
  rw [told] at run
  cases progress with
  | done value => exact .inl rfl
  | waiting phase =>
      exact .inr (PolicyCache.gateTurn_nearer come (congrArg (fun run => run.2.2) run.symm))

theorem Honest.returns (honest : view.Honest retries backoff) : Returns retries backoff view := by
  generalize far : view.distance retries = distance
  -- Only its own turns bring the gate nearer; the source and the clock leave the phase alone.
  induction distance using Nat.strongRecOn generalizing view with
  | ind distance ih =>
      cases waits : view.progress with
      | done value => exact .done waits
      | waiting gate =>
          choose ready path waits' meets come using fun source => honest.awaits waits source
          choose next turn near using fun source =>
            (honest.path (path source)).nearer (waits' source) (come source)
          refine .goesOn ready next path meets turn fun source => ?_
          have honest' := (honest.path (path source)).turn (turn source)
          rcases near source with done | near
          · cases ended : (next source).progress with
            | done value => exact .done ended
            | waiting gate' =>
                rw [ended] at done
                cases done
          · refine ih _ ?_ honest' rfl
            rw [← far]
            have same : (ready source).distance retries = view.distance retries := by
              rw [GateView.distance, GateView.distance, waits, waits']
            omega

end GateView

/-- A gate on an empty cache that is left alone does what its course says, for any answers of the
source: it calls the source until a call supplies a snapshot in time or all attempts are made,
pauses after each call that fails, and returns whether there was a snapshot, which is in effect
then.  A gate that is left alone has its turns in time: the clock does not pass the end of a call,
of its limit or of a pause before the gate has gone on.  A gate that finds a policy returns with its
first turn.  Whatever others do, what a turn tells is what it does to the cache, the gate makes no
more attempts than it may, and neither attempts nor pauses once there is a policy; it does return,
and what it returns is whether there is a policy then. -/
theorem gate_awaits_readiness (retries backoff : Nat) (origin : World)
    (here : .gating retries backoff none ∈ origin.tasks) :
    (origin.service.cache.current = none → origin.service.cache.refreshing = false →
      ∀ answers view, GateView.Path retries backoff GateView.LeftAlone (.begun origin) view →
        GateAccount.Follows answers 0 view.account →
          let terms : GateTerms := ⟨origin.service.cache.options.fetchTimeout, backoff, answers⟩
          let course := terms.course 0 origin.now retries
          view.account <+: course.1 ∧ terms.CountsTo retries course ∧
            ∀ value, view.progress = .done value → view.account = course.1 ∧
              view.world.service.cache.current = course.2 ∧ value = course.2.isSome) ∧
    ∀ others view, GateView.Path retries backoff others (.begun origin) view →
      (origin.service.cache.isReady = true →
        (view.progress = .waiting none ∧ view.account = []) ∨
          (view.progress = .done true ∧ ∃ time, view.account = [(time, .returns true)])) ∧
      (view.world.service.cache.isReady = true →
        ∀ later, GateView.Path retries backoff others view later →
          later.account.attempts = view.account.attempts ∧
            later.account.pauses = view.account.pauses) ∧
      view.Honest retries backoff ∧ view.Returns retries backoff ∧
      ∀ next, GateView.Turn retries backoff view next → GateView.Drives view next := by
  refine ⟨?_, ?_⟩
  · intro empty free answers view path follows terms course
    obtain ⟨-, rest, same, stands⟩ := GateView.Path.keeps terms path rfl free empty
      follows
    refine ⟨?_, terms.course_countsTo _ _, ?_⟩
    · exact ⟨rest.1, (congrArg Prod.fst same).symm⟩
    · intro value returned
      rw [returned] at stands
      obtain ⟨snapshot?, rfl, rfl, published⟩ := stands.done
      refine ⟨?_, ?_, ?_⟩
      · rw [show course = _ from same, GateCourse.following, List.append_nil]
      · rw [published, show course = _ from same, GateCourse.following]
      · rw [show course = _ from same, GateCourse.following]
  · intro others view path
    have honest := (GateView.begun_honest here).path path
    refine ⟨path.ready_atOnce, ?_, honest, honest.returns, fun next turn => turn.drives⟩
    intro ready later path'
    exact (GateView.Path.ready path' ready).2

/-! ## A call that fails and one that succeeds -/

namespace SampleGate

def policy : PolicySnapshot := .new "alpha" "1" .epoch

/-- A source that takes ten milliseconds and fails at first. -/
def source : ScriptedSource :=
  ⟨[.error (.unavailable "starting")], .ok policy, some 10, 0⟩

def origin : World :=
  { World.start (.new .default source (fun _ _ => .panicked) [] .empty .epoch)
      .default with tasks := [.gating 3 5 none] }

def answers (place : Nat) : SourceAnswer :=
  ⟨10, if place = 0 then .error (.unavailable "starting") else .ok policy⟩

theorem passes {world : World} {phase : GatePhase} {account : GateAccount} (wake : Nat)
    (forward : world.now ≤ wake) (wakes : phase.wake = some wake)
    (here : .gating 3 5 (some phase) ∈ world.tasks) :
    GateView.Step 3 5 GateView.LeftAlone ⟨world, .waiting (some phase), account⟩
      ⟨{ world with now := wake }, .waiting (some phase), account⟩ := by
  refine .meanwhile (.time wake forward) here ⟨rfl, rfl, rfl, ?_⟩
  intro wake' same
  rw [GatePhase.wakeOf, Option.elim_some, wakes] at same
  cases same
  exact Nat.le_max_right _ _

end SampleGate

open SampleGate in
/-- The gate pauses after the first call, and returns with the snapshot of the second one. -/
theorem second_call_supplies_policy :
    ∃ view, GateView.Path 3 5 GateView.LeftAlone (.begun origin) view ∧
      view.progress = .done true ∧ view.account.calls = 2 ∧ view.account.pauses = 1 ∧
      view.world.service.cache.current = some policy := by
  have turn {world : World} {gate : Option GatePhase} {account : GateAccount} {next : World}
      (progress : Progress Bool GatePhase)
      (step : World.Step world (.turn (.gating 3 5 gate)
        (progress.map .ready fun phase => .gating 3 5 (some phase))) next) :
      GateView.Step 3 5 GateView.LeftAlone ⟨world, .waiting gate, account⟩ _ := .turn (.turns step)
  have called : GateView.Path 3 5 GateView.LeftAlone (.begun origin) _ :=
    .single (turn (.waiting _) (.turns [] [] _ _ _ rfl rfl))
  have paused : GateView.Path 3 5 GateView.LeftAlone (.begun origin) _ :=
    (called.tail (passes 10 (by decide) rfl List.mem_cons_self)).tail
      (turn (.waiting _) (.turns [] [] _ _ _ rfl rfl))
  have again : GateView.Path 3 5 GateView.LeftAlone (.begun origin) _ :=
    (paused.tail (passes 15 (by decide) rfl List.mem_cons_self)).tail
      (turn (.waiting _) (.turns [] [] _ _ _ rfl rfl))
  have returned : GateView.Path 3 5 GateView.LeftAlone (.begun origin) _ :=
    (again.tail (passes 25 (by decide) rfl List.mem_cons_self)).tail
      (turn (.done _) (.turns [] [] _ _ _ rfl rfl))
  obtain ⟨alone, -⟩ := gate_awaits_readiness 3 5 origin List.mem_cons_self
  obtain ⟨-, -, ends⟩ := alone rfl rfl answers _ returned
    ⟨rfl, rfl, trivial, rfl, rfl, trivial, trivial⟩
  obtain ⟨-, current, -⟩ := ends true rfl
  refine ⟨_, returned, rfl, rfl, rfl, ?_⟩
  rw [current]
  rfl

end DecisionPoint
