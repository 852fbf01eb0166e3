import DecisionPoint.Proofs.Policy.Timetable
import DecisionPoint.Proofs.Schedule.Looping

/-!
# Fetches by the clock

A loop that takes its turns in time, while nobody else refreshes, keeps a timetable: its first
fetch begins with its first turn, and each later one as soon as the next tick has come and the
fetch before has ended.  So ticks that come during a fetch are not all skipped: the first of them
is served late.  They are skipped exactly if no fetch lasts longer than to the next tick.
-/

set_option autoImplicit false

namespace DecisionPoint

namespace World

/-- The fetches of a loop, the latest first, after something has happened. -/
def noted (world : World) (number : Nat) (rounds : List Round) : Happening → List Round
  | .turn (.loop other phase) (.waiting (.loop _ phase')) =>
    if other = number then world.service.cache.noted world.now phase phase' rounds else rounds
  | _ => rounds

/-- A loop from its start on, with its fetches.  Nobody starts or stops a loop, nobody else
refreshes, and no time passes while the loop could take its turn. -/
inductive Rounds (origin : World) (number : Nat) : World → List Round → Prop where
  | start : Rounds origin number origin []
  | step {world next : World} {happening : Happening} {rounds : List Round}
      (earlier : Rounds origin number world rounds) (step : Step world happening next)
      (calm : happening.steers = false)
      (alone : (∀ phase progress, happening ≠ .turn (.loop number phase) progress) →
        next.service.cache.refreshing = world.service.cache.refreshing)
      (inTime : ∀ phase, .loop number phase ∈ world.activities →
        ∀ wake, phase.wake = some wake → next.now ≤ max world.now wake) :
      Rounds origin number next (world.noted number rounds happening)

theorem Rounds.turn {origin world next : World} {number : Nat} {rounds : List Round}
    {phase : LoopPhase} {progress : Progress Answer Activity}
    (earlier : Rounds origin number world rounds)
    (step : Step world (.turn (.loop number phase) progress) next) (still : next.now = world.now) :
    Rounds origin number next (world.noted number rounds (.turn (.loop number phase) progress)) :=
  .step earlier step rfl (fun other => absurd rfl (other phase progress))
    (fun _ _ _ _ => still ▸ Nat.le_max_left _ _)

theorem Rounds.passes {origin world : World} {number : Nat} {rounds : List Round}
    {phase : LoopPhase} (earlier : Rounds origin number world rounds) (later : Nat)
    (forward : world.now ≤ later) (only : world.activities = [.loop number phase])
    (wakes : phase.wake = some later) :
    Rounds origin number { world with now := later } rounds := by
  refine .step earlier (.time later forward) rfl (fun _ => rfl) ?_
  intro phase' mem wake same
  rw [only] at mem
  cases List.mem_singleton.mp mem
  rw [wakes] at same
  cases same
  exact Nat.le_max_right _ _

/-- The only loop is one that keeps its timetable. -/
structure Keeps (period number : Nat) (world : World) (rounds : List Round) (phase : LoopPhase)
    (first : Nat) : Prop where
  interval : world.service.cache.period = period
  only : loopsAmong world.activities = [(number, phase)]
  untold : number ∉ world.service.stopping
  flag : world.service.cache.refreshing = phase.isFetching
  abides : Abides period world.now first phase rounds

section Steps

variable {world next : World} {happening : Happening} {period number first : Nat}
  {rounds : List Round} {phase : LoopPhase}

theorem noted_other (world : World) (number : Nat) (rounds : List Round)
    (other : ∀ number phase progress, happening ≠ .turn (.loop number phase) progress) :
    world.noted number rounds happening = rounds := by
  unfold noted
  split
  · exact absurd rfl (other _ _ _)
  · rfl

theorem Step.keeps (step : Step world happening next) (calm : happening.steers = false)
    (alone : (∀ phase progress, happening ≠ .turn (.loop number phase) progress) →
      next.service.cache.refreshing = world.service.cache.refreshing)
    (inTime : ∀ phase, .loop number phase ∈ world.activities →
      ∀ wake, phase.wake = some wake → next.now ≤ max world.now wake)
    (keeps : world.Keeps period number rounds phase first) :
    ∃ phase' first',
      next.Keeps period number (world.noted number rounds happening) phase' first' := by
  have here : .loop number phase ∈ world.activities := by
    rw [← mem_loopsAmong, keeps.only]
    exact List.mem_singleton_self _
  cases step.loopMove calm with
  | aside other leaves same =>
      rw [keeps.only, List.perm_singleton] at same
      refine ⟨phase, first, ?_, same, ?_, ?_, ?_⟩
      · rw [← keeps.interval, PolicyCache.period, PolicyCache.period, leaves.options]
      · rw [leaves.stopping]
        exact keeps.untold
      · rw [alone (other number)]
        exact keeps.flag
      · rw [noted_other world number rounds other]
        exact keeps.abides.later step.forward (inTime phase here)
  | @goesOn left right other phase₀ phase' cache journal split ran =>
      obtain ⟨rfl, rfl, -⟩ := only_split keeps.only split
      have steady := world.service.cache.runLoop_steady world.service.journal world.now false phase₀
      have abides := keeps.abides
      rw [← keeps.interval] at abides
      obtain ⟨first', abides'⟩ := abides.turn keeps.flag ran
      rw [ran] at steady
      refine ⟨phase', first', ?_, ?_, keeps.untold,
        PolicyCache.runLoop_refreshing keeps.flag ran, ?_⟩
      · rw [← keeps.interval, PolicyCache.period, PolicyCache.period]
        exact congrArg _ (congrArg _ steady.options)
      · exact only_goesOn keeps.only split
      · rw [← keeps.interval, noted, if_pos rfl]
        exact abides'
  | ends split told ran =>
      obtain ⟨rfl, -, -⟩ := only_split keeps.only split
      exact absurd told keeps.untold

end Steps

/-- The loop that has just started is the only one, and nobody refreshes. -/
theorem Rounds.keeps {origin world : World} {number : Nat} {rounds : List Round}
    (ran : Rounds origin number world rounds)
    (only : loopsAmong origin.activities = [(number, .fresh)])
    (untold : number ∉ origin.service.stopping) (free : origin.service.cache.refreshing = false) :
    ∃ phase first, world.Keeps origin.service.cache.period number rounds phase first := by
  induction ran with
  | start => exact ⟨.fresh, 0, rfl, only, untold, free, .fresh⟩
  | step _ step calm alone inTime ih =>
      obtain ⟨phase, first, keeps⟩ := ih
      exact step.keeps calm alone inTime keeps

end World

/-- A loop that is started while no other one is there, and nobody else refreshes, keeps a
timetable: every fetch serves a tick, and begins as soon as the tick has come and the fetch before
has ended.  The ticks that come during a fetch are skipped if and only if no fetch that another one
follows lasts longer than a period. -/
theorem missed_ticks_skipped_iff (options : ServiceOptions) (beginning before origin world : World)
    (happenings : List Happening) (new : beginning.IsNew options)
    (run : World.Run beginning happenings before) (none : loopsAmong before.activities = [])
    (free : before.service.cache.refreshing = false)
    (started : World.Step before .loopStarted origin) (rounds : List Round)
    (ran : World.Rounds origin before.service.nextNumber world rounds) :
    ∃ first, Timetable origin.service.cache.period first rounds ∧
      (∀ round ∈ rounds, OnGrid origin.service.cache.period first round.due ∧
        OnGrid origin.service.cache.period first round.next) ∧
      (SkipsMissed origin.service.cache.period first rounds ↔
        Brief origin.service.cache.period rounds) := by
  obtain ⟨-, -, rfl⟩ := started.loopStart
  have untold : before.service.nextNumber ∉ before.service.stopping := by
    intro told
    exact Nat.lt_irrefl _ ((run.loops new).stopping _ told).1
  have only := World.loopsAmong_withLoop before.service before.tasks
  rw [World.activities] at none
  rw [none] at only
  obtain ⟨phase, first, keeps⟩ := ran.keeps (List.perm_singleton.mp only) untold free
  have table := keeps.abides.table
  exact ⟨first, table, table.ticks, table.skipsMissed_iff⟩

/-! ## A brief fetch and one that lasts too long -/

namespace SampleTimetable

/-- A refresh every hundred milliseconds, without a limit on fetches. -/
def options : ServiceOptions :=
  { ServiceOptions.default with cache := ⟨.ofMillis 100, none, 5, .ofMillis 500⟩ }

def beginning (delay : Nat) : World :=
  .start
    (.new options { ScriptedSource.unavailable with delay := some delay } (fun _ _ => .panicked) []
      .empty .epoch)
    .default

def origin (delay : Nat) : World :=
  { beginning delay with service := (beginning delay).service.withLoop }

theorem starts (delay : Nat) : World.Step (beginning delay) .loopStarted (origin delay) :=
  .loopStarts _ rfl

end SampleTimetable

open SampleTimetable in
/-- The first fetch takes thirty milliseconds, and the second one begins with the next tick. -/
theorem brief_fetch_keeps_to_ticks :
    ∃ world rounds, World.Rounds (origin 30) 0 world rounds ∧
      rounds = [⟨100, 100, 200, none⟩, ⟨0, 0, 100, some 30⟩] ∧
      ∃ first, SkipsMissed 100 first rounds := by
  have joined : World.Rounds (origin 30) 0 _ _ :=
    .step .start .joins rfl (fun _ => rfl) (fun _ _ _ _ => Nat.le_max_left _ _)
  have ended : World.Rounds (origin 30) 0 _ _ :=
    ((joined.turn (.turns [] [] _ _ _ rfl rfl) rfl).passes 30 (by decide) rfl rfl).turn
      (.turns [] [] _ _ _ rfl rfl) rfl
  have again : World.Rounds (origin 30) 0 _ _ :=
    (ended.passes 100 (by decide) rfl rfl).turn (.turns [] [] _ _ _ rfl rfl) rfl
  obtain ⟨first, -, -, skips⟩ := missed_ticks_skipped_iff options _ _ _ _ _
    ⟨_, _, _, _, _, _, rfl⟩ .start rfl rfl (starts 30) _ again
  refine ⟨_, _, again, rfl, first, skips.mpr ?_⟩
  exact List.isChain_cons_cons.mpr ⟨fun finish ended => by cases ended; decide, .singleton _⟩

open SampleTimetable in
/-- The first fetch takes a hundred and fifty milliseconds.  The tick that has come meanwhile is not
skipped: the second fetch begins when the first one ends, which is at no time of the ticker. -/
theorem long_fetch_delays_tick :
    ∃ world rounds, World.Rounds (origin 150) 0 world rounds ∧
      rounds = [⟨100, 150, 200, none⟩, ⟨0, 0, 100, some 150⟩] ∧ ¬OnGrid 100 0 150 ∧
      ∀ first, ¬SkipsMissed 100 first rounds := by
  have joined : World.Rounds (origin 150) 0 _ _ :=
    .step .start .joins rfl (fun _ => rfl) (fun _ _ _ _ => Nat.le_max_left _ _)
  have ended : World.Rounds (origin 150) 0 _ _ :=
    ((joined.turn (.turns [] [] _ _ _ rfl rfl) rfl).passes 150 (by decide) rfl rfl).turn
      (.turns [] [] _ _ _ rfl rfl) rfl
  have late : World.Rounds (origin 150) 0 _ _ := ended.turn (.turns [] [] _ _ _ rfl rfl) rfl
  refine ⟨_, _, late, rfl, ?_, ?_⟩
  · rintro ⟨count, same⟩
    omega
  · intro first skips
    have dropped := (List.isChain_cons_cons.mp skips.dropped).1 150 rfl
    revert dropped
    decide

end DecisionPoint
