import DecisionPoint.Proofs.Policy.Attempts
import DecisionPoint.Proofs.Policy.Coherence
import DecisionPoint.Proofs.Policy.SingleFlight
import DecisionPoint.Proofs.Policy.Timetable
import DecisionPoint.Proofs.Schedule.LoopCalls

/-!
# The lifecycle of the loop

The loop can be started while there is none, and stopping it leaves none behind.  A fetch that it
still has in flight in its last turn is broken off and changes nothing that is in effect; a fetch of
somebody else goes on.  Afterwards the loop can be started again, and calls the source again.
-/

set_option autoImplicit false

namespace DecisionPoint

namespace PolicyCache

variable (cache : PolicyCache) (journal : Journal) (now : Nat)

/-- A loop that ends gives the right to refresh back if it has it, and does nothing else. -/
theorem runLoop_stopped (phase : LoopPhase) :
    cache.runLoop journal now true phase =
      (if phase.isFetching then cache.release else cache, journal, .done ()) := by
  cases phase <;> rfl

/-- A loop goes on fetching until its answer has come or its time is up. -/
theorem runLoop_early (ticker : Ticker) {wait : FetchWait}
    (early : hasCome now wait.wake = false) :
    cache.runLoop journal now false (.fetching ticker wait) =
      (cache, journal, .waiting (.fetching ticker wait)) := by
  simp only [runLoop, Bool.false_eq_true, if_false, cache.resume_early journal early]

/-- A loop that serves a tick refreshes as anybody else does. -/
theorem runLoop_due {phase phase' : LoopPhase} {ticker : Ticker} {after : PolicyCache}
    {journal' : Journal} (due : phase.due? cache.period now = some ticker)
    (free : cache.refreshing = false)
    (ran : cache.runLoop journal now false phase = (after, journal', .waiting phase')) :
    (after, journal') = ((cache.refresh journal now).1, (cache.refresh journal now).2.1) := by
  have ticks (ticker : Ticker) :
      ((cache.tick journal now ticker).1, (cache.tick journal now ticker).2.1) =
        ((cache.refresh journal now).1, (cache.refresh journal now).2.1) := by
    simp only [tick, free, Bool.false_eq_true, if_false]
    generalize cache.refresh journal now = run
    obtain ⟨cache', journal', progress⟩ := run
    cases progress <;> rfl
  cases phase with
  | fresh =>
      simp only [runLoop, Bool.false_eq_true, if_false] at ran
      cases ran
      exact ticks _
  | ticking ticker' =>
      simp only [LoopPhase.due?, Option.ite_none_right_eq_some] at due
      simp only [runLoop, due.1, Bool.false_eq_true, if_false, if_true] at ran
      cases ran
      exact ticks _
  | fetching ticker' wait => cases due

end PolicyCache

namespace World

section Steps

variable {world next : World} {stop : Option (Option Nat)}

theorem mem_beside {left right : List Activity} {activity other : Activity}
    (mem : other ∈ left ++ activity :: right) (differs : other ≠ activity)
    (rest : List Activity) : other ∈ left ++ rest ++ right := by
  simp only [List.mem_append, List.mem_cons, differs, false_or] at mem ⊢
  exact mem.imp_left .inl

theorem mem_looping {number : Nat} :
    number ∈ world.looping ↔ ∃ phase, .loop number phase ∈ world.activities := by
  simp [looping, mem_loopsAmong]

theorem gone_iff : world.looping = [] ↔ ∀ number phase, .loop number phase ∉ world.activities := by
  rw [List.eq_nil_iff_forall_not_mem]
  simp only [mem_looping, not_exists]

def placed (world : World) : World :=
  { world with
    service := { world.service with spawned := [] }
    tasks := world.tasks ++ world.service.spawned.map Spawned.activity }

theorem placed_inTurn (world : World) (stop : Option (Option Nat)) :
    InTurn world stop world.placed stop :=
  .meanwhile .start .joins rfl

theorem mem_placed {activity : Activity} :
    activity ∈ world.placed.tasks ↔ activity ∈ world.activities :=
  List.perm_append_comm.mem_iff

/-! ## Starting -/

theorem Tracked.running_iff (tracked : world.Tracked none) :
    world.service.cache.loop.isSome = true ↔
      ∃ number phase, .loop number phase ∈ world.activities := by
  constructor
  · intro running
    obtain ⟨number, running⟩ := Option.isSome_iff_exists.mp running
    refine ⟨number, mem_looping.mp ?_⟩
    rw [(tracked.standing.running running).1]
    exact List.mem_cons_self
  · rintro ⟨number, phase, mem⟩
    by_contra free
    have none := tracked.standing.free (Option.not_isSome_iff_eq_none.mp free) rfl
    exact gone_iff.mp none number phase mem

/-- All loops have numbers that were given away after some time. -/
def LoopsFrom (bound : Nat) (world : World) : Prop :=
  bound ≤ world.service.nextNumber ∧ ∀ number ∈ world.looping, bound ≤ number

theorem LoopsFrom.meanwhile {bound : Nat} {happening : Happening}
    (recent : world.LoopsFrom bound) (step : Step world happening next)
    (calm : happening.steers = false) : next.LoopsFrom bound := by
  obtain ⟨given, all⟩ := recent
  cases step.loopMove calm with
  | aside other leaves same =>
      refine ⟨Nat.le_trans given leaves.numbers, ?_⟩
      intro number mem
      exact all number ((same.map Prod.fst).mem_iff.mp mem)
  | @goesOn left right number phase phase' cache journal split ran =>
      refine ⟨given, ?_⟩
      intro other mem
      exact all other ((looping_goesOn split).mem_iff.mp mem)
  | ends split told ran =>
      refine ⟨given, ?_⟩
      intro other mem
      exact all other ((looping_split split).mem_iff.mpr (List.mem_cons_of_mem _ mem))

theorem LoopsFrom.stopTurn {bound : Nat} {loop : Option Nat} {progress : Progress Answer Activity}
    (recent : world.LoopsFrom bound)
    (step : Step world (.turn (.stoppingLoop loop) progress) next) : next.LoopsFrom bound := by
  obtain ⟨move, same, -⟩ := step.stopMove
  have numbers : next.service.nextNumber = world.service.nextNumber := by
    generalize next.service = service at move
    cases move <;> rfl
  rw [LoopsFrom, numbers, looping, same]
  exact recent

theorem Tracked.gone {loop : Option Nat} {answer : Answer}
    (tracked : world.Tracked (some loop))
    (step : Step world (.turn (.stoppingLoop loop) (.done answer)) next) :
    next.service.cache.loop = none ∧ next.looping = [] ∧
      ∀ number ∈ loop, number < next.service.nextNumber := by
  obtain ⟨move, same, -⟩ := step.stopMove
  obtain ⟨given, told, ended, standing⟩ := tracked
  rw [looping, same, ← looping]
  generalize next.service = service at move
  cases move with
  | nothing free => exact ⟨free, standing.free free rfl, by simp⟩
  | returns gone =>
      obtain ⟨free, none⟩ := standing.gone gone
      refine ⟨free, none, ?_⟩
      intro number known
      cases known
      exact told _ (ended _ gone)

variable {number : Nat} {phase phase' : LoopPhase}

theorem Step.rests {ticker : Ticker} {wait : FetchWait}
    (step : Step world
      (.turn (.loop number (.fetching ticker wait)) (.waiting (.loop number phase))) next)
    (early : hasCome world.now wait.wake = false) :
    phase = .fetching ticker wait ∧ next.state = world.state := by
  cases step.loopMove rfl with
  | aside other => exact absurd rfl (other number _ _)
  | goesOn split ran =>
      rw [PolicyCache.runLoop_early _ _ _ _ early] at ran
      cases ran
      exact ⟨rfl, rfl⟩

theorem Step.refreshes {ticker : Ticker}
    (step : Step world (.turn (.loop number phase) (.waiting (.loop number phase'))) next)
    (due : phase.due? world.service.cache.period world.now = some ticker)
    (free : world.service.cache.refreshing = false) :
    next.state =
      ((world.service.cache.refresh world.service.journal world.now).1,
        (world.service.cache.refresh world.service.journal world.now).2.1) := by
  cases step.loopMove rfl with
  | aside other => exact absurd rfl (other number phase _)
  | goesOn split ran => exact PolicyCache.runLoop_due _ _ _ due free ran

theorem loop_turns (mem : .loop number phase ∈ world.tasks)
    (untold : number ∉ world.service.stopping) :
    ∃ phase' next,
      Step world (.turn (.loop number phase) (.waiting (.loop number phase'))) next := by
  obtain ⟨left, right, split⟩ := List.append_of_mem mem
  obtain ⟨phase', waits⟩ :=
    world.service.cache.runLoop_waiting world.service.journal world.now phase
  generalize result : world.service.cache.runLoop world.service.journal world.now false phase = run
    at waits
  obtain ⟨cache, journal, progress⟩ := run
  cases waits
  have told : world.service.stopping.contains number = false :=
    Bool.eq_false_iff.mpr fun told => untold (List.contains_iff_mem.mp told)
  have ran : (Activity.loop number phase).part world.service world.surroundings world.now =
      (world.service.withCache cache journal, .waiting (.loop number phase')) := by
    simp only [Activity.part, Activity.run, Service.runLoop, told, result, Progress.map]
  exact ⟨phase', _, .turns left right _ _ _ split ran⟩

theorem Tracked.turns (tracked : world.Tracked none)
    (here : .loop number phase ∈ world.activities) :
    ∃ placed phase' next, InTurn world none placed none ∧ placed.now = world.now ∧
      placed.state = world.state ∧
        Step placed (.turn (.loop number phase) (.waiting (.loop number phase'))) next := by
  have untold : number ∉ world.service.stopping := by
    obtain ⟨other, running⟩ := Option.isSome_iff_exists.mp (tracked.running_iff.mpr ⟨_, _, here⟩)
    obtain ⟨only, untold⟩ := tracked.standing.running running
    have same := mem_looping.mpr ⟨phase, here⟩
    rw [only] at same
    exact List.mem_singleton.mp same ▸ untold
  obtain ⟨phase', next, step⟩ := loop_turns (mem_placed.mpr here) untold
  exact ⟨world.placed, phase', next, world.placed_inTurn none, rfl, rfl, step⟩

/-! ## Turns of others -/

theorem Step.spares {loop : Option Nat} {progress : Progress Answer Activity}
    (step : Step world (.turn (.stoppingLoop loop) progress) next) :
    next.service.journal = world.service.journal ∧
      next.service.cache = { world.service.cache with loop := next.service.cache.loop } ∧
      ∀ activity ∈ world.tasks, activity.steers = false → activity ∈ next.tasks := by
  obtain ⟨move, -, left, right, split, after⟩ := step.stopMove
  refine ⟨?_, ?_, ?_⟩
  · generalize next.service = service at move
    cases move <;> rfl
  · generalize next.service = service at move
    cases move <;> rfl
  · intro activity mem other
    rw [after]
    exact mem_beside (split ▸ mem) (by rintro rfl; cases other) _

theorem InTurn.leaves {later : World} {stop' : Option (Option Nat)}
    (inTurn : InTurn world (some (some number)) later stop') (stays : LoopPhase → Prop)
    (leaves : World → World → Prop) (tracked : world.Tracked (some (some number)))
    (here : .loop number phase ∈ world.activities) (stay : stays phase)
    (turn : ∀ middle next phase progress, InTurn world (some (some number)) middle
        (some (some number)) → Step middle (.turn (.loop number phase) progress) next →
        stays phase →
      (∃ phase', progress = .waiting (.loop number phase') ∧ stays phase') ∨ leaves middle next) :
    (stop' = some (some number) ∧ ∃ phase', .loop number phase' ∈ later.activities ∧
        stays phase') ∨
      ∃ before after, InTurn world (some (some number)) before (some (some number)) ∧
        leaves before after ∧ InTurn after (some (some number)) later stop' := by
  -- Either the loop is still there, in a phase that stays, or it has left and the run goes on.
  induction inTurn with
  | start => exact .inl ⟨rfl, phase, here, stay⟩
  | @meanwhile middle next happening stop earlier step calm ih =>
      rcases ih with ⟨rfl, phase', here, stay⟩ | ⟨before, after, first, left, rest⟩
      · have only := (earlier.tracked tracked).only here
        have move := step.loopMove calm
        cases move with
        | aside other leaves same =>
            refine .inl ⟨rfl, phase', mem_loopsAmong.mp ?_, stay⟩
            rw [same.mem_iff, only]
            exact List.mem_cons_self
        | goesOn split ran =>
            obtain ⟨rfl, rfl, -⟩ := only_split only split
            rcases turn _ _ _ _ earlier step stay with ⟨phase'', same, stay⟩ | left
            · cases same
              exact .inl ⟨rfl, _,
                List.mem_append_right _ (List.mem_append_right _ List.mem_cons_self), stay⟩
            · exact .inr ⟨_, _, earlier, left, .start⟩
        | ends split told ran =>
            obtain ⟨rfl, rfl, -⟩ := only_split only split
            rcases turn _ _ _ _ earlier step stay with ⟨phase'', same, -⟩ | left
            · cases same
            · exact .inr ⟨_, _, earlier, left, .start⟩
      · exact .inr ⟨before, after, first, left, rest.meanwhile step calm⟩
  | starts _ step ih =>
      rcases ih with ⟨same, -⟩ | ⟨before, after, first, left, rest⟩
      · cases same
      · exact .inr ⟨before, after, first, left, rest.starts step⟩
  | stops _ step ih =>
      rcases ih with ⟨same, -⟩ | ⟨before, after, first, left, rest⟩
      · cases same
      · exact .inr ⟨before, after, first, left, rest.stops step⟩
  | @waits middle next loop loop' earlier step ih =>
      rcases ih with ⟨same, phase', here, stay⟩ | ⟨before, after, first, left, rest⟩
      · cases same
        obtain ⟨move, loops, -⟩ := step.stopMove
        generalize next.service = service at move
        cases move
        rw [← mem_loopsAmong, ← loops, mem_loopsAmong] at here
        exact .inl ⟨rfl, phase', here, stay⟩
      · exact .inr ⟨before, after, first, left, rest.waits step⟩
  | returns earlier step ih =>
      rcases ih with ⟨same, phase', here, -⟩ | ⟨before, after, first, left, rest⟩
      · -- The stop does not return as long as the loop is there.
        cases same
        obtain ⟨-, loops, -⟩ := step.stopMove
        rw [← mem_loopsAmong, ← loops, mem_loopsAmong] at here
        exact absurd here (gone_iff.mp ((earlier.tracked tracked).gone step).2.1 number _)
      · exact .inr ⟨before, after, first, left, rest.returns step⟩

theorem exists_stopTurn {loop : Option Nat} (mem : .stoppingLoop loop ∈ world.tasks) :
    ∃ progress next, Step world (.turn (.stoppingLoop loop) progress) next ∧
      next.now = world.now := by
  obtain ⟨left, right, split⟩ := List.append_of_mem mem
  exact ⟨_, _, .turns left right _ _ _ split rfl, rfl⟩

theorem stop_returns (mem : .stoppingLoop (some number) ∈ world.tasks)
    (ended : number ∈ world.service.ended) :
    ∃ answer next, Step world (.turn (.stoppingLoop (some number)) (.done answer)) next ∧
      next.now = world.now := by
  obtain ⟨progress, next, step, still⟩ := exists_stopTurn mem
  obtain ⟨move, -⟩ := step.stopMove
  generalize next.service = service at move
  cases move with
  | waits goesOn => exact absurd ended goesOn
  | returns gone => exact ⟨_, next, step, still⟩

theorem loop_ends (mem : .loop number phase ∈ world.tasks)
    (told : number ∈ world.service.stopping) :
    ∃ next, Step world (.turn (.loop number phase) (.done .ended)) next ∧
      number ∈ next.service.ended ∧ next.now = world.now ∧
      ∀ activity ∈ world.tasks, activity.loop? = none → activity ∈ next.tasks := by
  obtain ⟨left, right, split⟩ := List.append_of_mem mem
  have ran : (Activity.loop number phase).part world.service world.surroundings world.now =
      ({ world.service.withCache
          (if phase.isFetching then world.service.cache.release else world.service.cache)
          world.service.journal with ended := world.service.ended ++ [number] }, .done .ended) := by
    simp only [Activity.part, Activity.run, Service.runLoop, List.contains_iff_mem.mpr told,
      PolicyCache.runLoop_stopped, Progress.map]
  refine ⟨_, .turns left right _ _ _ split ran, ?_, rfl, ?_⟩
  · exact List.mem_append_right _ List.mem_cons_self
  · intro activity mem other
    exact mem_beside (split ▸ mem) (by rintro rfl; cases other) _

theorem Tracked.awaitedReturns (tracked : world.Tracked (some (some number)))
    (mem : .stoppingLoop (some number) ∈ world.tasks) :
    ∃ later, InTurn world (some (some number)) later none ∧ later.now = world.now := by
  by_cases ended : number ∈ world.service.ended
  · obtain ⟨answer, next, step, still⟩ := stop_returns mem ended
    exact ⟨next, .returns .start step, still⟩
  · obtain ⟨only, told⟩ := tracked.standing.awaited ended
    obtain ⟨phase, here⟩ := mem_looping.mp (only ▸ List.mem_cons_self : number ∈ world.looping)
    -- The loop may have to take its place first.
    obtain ⟨after, ends, gone, still, others⟩ := loop_ends (mem_placed.mpr here) told
    obtain ⟨answer, next, step, still'⟩ :=
      stop_returns (others _ (List.mem_append_left _ mem) rfl) gone
    exact ⟨next, .returns ((world.placed_inTurn _).meanwhile ends rfl) step, still'.trans still⟩

/-- A stop can return at once: the loop ends in its next turn, whatever it waits for. -/
theorem Tracked.returns {loop : Option Nat} (tracked : world.Tracked (some loop))
    (calls : world.tasks.filter Activity.steers = [.stoppingLoop loop]) :
    ∃ later, InTurn world (some loop) later none ∧ later.now = world.now := by
  have mem : .stoppingLoop loop ∈ world.tasks :=
    List.mem_of_mem_filter (calls ▸ List.mem_cons_self)
  cases loop with
  | some number => exact tracked.awaitedReturns mem
  | none =>
      obtain ⟨progress, next, step, still⟩ := exists_stopTurn mem
      rcases tracked.stopTurn step with ⟨rfl, -⟩ | ⟨number, rfl, tracked'⟩
      · exact ⟨next, .returns .start step, still⟩
      · have first : InTurn world (some none) next (some (some number)) := .waits .start step
        have mem' : .stoppingLoop (some number) ∈ next.tasks.filter Activity.steers := by
          rw [first.calls calls]
          exact List.mem_cons_self
        obtain ⟨later, rest, still'⟩ := tracked'.awaitedReturns (List.mem_of_mem_filter mem')
        exact ⟨later, first.trans rest, still'.trans still⟩

end Steps

end World

namespace SampleFlight

def fetching : World :=
  { beginning with
    service :=
      { service with
        cache := { service.cache with loop := some 0, refreshing := true }
        nextNumber := 1 }
    tasks := [.loop 0 (.fetching ⟨14400000, 14400000⟩ ⟨some 3, some 30000, .ofSecs 30⟩)] }

def stopping : World :=
  { fetching with
    service :=
      { fetching.service with
        cache := { fetching.service.cache with loop := none }
        stopping := [0] }
    tasks := fetching.tasks ++ [.stoppingLoop (some 0)] }

end SampleFlight

end DecisionPoint
