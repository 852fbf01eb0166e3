import DecisionPoint.Proofs.Schedule.Loops

/-!
# Starts among other activities

A `Launch` is a start from its beginning on, with whatever else happens meanwhile.  It ends with the
service open, or with everything taken back that it has done.
-/

set_option autoImplicit false

namespace DecisionPoint

def Activity.steers : Activity → Bool
  | starting _ | stopping _ | stoppingLoop _ => true
  | _ => false

def Happening.steers : Happening → Bool
  | loopStarted => true
  | begun activity | turn activity _ | dropped activity => activity.steers
  | _ => false

theorem Activity.Kin.steers {activity activity' : Activity} (kin : activity.Kin activity') :
    activity'.steers = activity.steers := by
  cases kin <;> rfl

namespace Service

/-- What starting and stopping do is left alone. -/
structure Aside (before after : Service) : Prop where
  options : after.options = before.options
  pipeline : after.pipeline = before.pipeline
  cacheOptions : after.cache.options = before.cache.options
  loop : after.cache.loop = before.cache.loop
  admission : after.admission = before.admission
  stopping : after.stopping = before.stopping
  calls : governingCalls after.calls = governingCalls before.calls

theorem Aside.refl (service : Service) : service.Aside service :=
  ⟨rfl, rfl, rfl, rfl, rfl, rfl, rfl⟩

theorem Aside.trans {a b c : Service} (first : a.Aside b) (second : b.Aside c) : a.Aside c :=
  ⟨second.options.trans first.options, second.pipeline.trans first.pipeline,
    second.cacheOptions.trans first.cacheOptions, second.loop.trans first.loop,
    second.admission.trans first.admission, second.stopping.trans first.stopping,
    second.calls.trans first.calls⟩

theorem Rests.aside {before after : Service} (rests : before.Rests after) : before.Aside after :=
  ⟨rests.options, rests.pipeline, rests.policy.options, rests.policy.loop, rests.admission,
    rests.stopping, by rw [rests.calls]⟩

theorem Attends.aside {before after : Service} (attends : before.Attends after) :
    before.Aside after :=
  ⟨attends.options, attends.pipeline, by rw [attends.cache], by rw [attends.cache],
    attends.admission, attends.stopping, attends.governing⟩

theorem Does.leavesAside {before after : Service} {deeds : List Deed}
    (does : Does false before deeds after) : before.Aside after := by
  generalize calm : false = governing at does
  induction does with
  | rests rests => exact rests.aside
  | followed _ _ ih ih' => exact (ih calm).trans (ih' calm)
  | governs governs => cases calm
  | opens opens => cases calm
  | closes admits found => cases calm
  | forgets shut => cases calm
  | _ => exact ⟨rfl, rfl, rfl, rfl, rfl, rfl, rfl⟩

theorem runLoop_aside (service : Service) (now number : Nat) (phase : LoopPhase) :
    service.Aside (service.runLoop now number phase).1 := by
  have steady := service.cache.runLoop_steady service.journal now
    (service.stopping.contains number) phase
  unfold runLoop
  generalize service.cache.runLoop service.journal now (service.stopping.contains number) phase =
    run at steady ⊢
  obtain ⟨cache, journal, progress⟩ := run
  cases progress <;> exact ⟨rfl, rfl, steady.options, steady.loop, rfl, rfl, rfl⟩

theorem Follows.aside {origin before after : Service} {given : List Call}
    (follows : Follows origin before given) (aside : before.Aside after) :
    Follows origin after given :=
  ⟨aside.options.trans follows.options, aside.pipeline.trans follows.pipeline,
    aside.cacheOptions.trans follows.cacheOptions, aside.calls.trans follows.calls⟩

theorem Stage.aside {origin before after : Service} {phase : StartPhase} {made : Nat}
    (stage : Stage origin before phase made) (aside : before.Aside after) :
    Stage origin after phase made := by
  cases stage with
  | fresh follows shut noLoop =>
      exact .fresh (follows.aside aside) (aside.admission.trans shut) (aside.loop.trans noLoop)
  | startingPoint split succeeded follows shut noLoop =>
      exact .startingPoint split succeeded (follows.aside aside) (aside.admission.trans shut)
        (aside.loop.trans noLoop)
  | gating succeeded follows shut loop counted wakes =>
      exact .gating succeeded (follows.aside aside) (aside.admission.trans shut)
        (aside.loop ▸ loop) counted wakes
  | stoppingLoop succeeded follows shut noLoop told =>
      exact .stoppingLoop succeeded (follows.aside aside) (aside.admission.trans shut)
        (aside.loop.trans noLoop) (aside.stopping ▸ told)
  | stoppingPoint started stopped rest begins order follows shut noLoop =>
      exact .stoppingPoint started stopped rest begins order (follows.aside aside)
        (aside.admission.trans shut) (aside.loop.trans noLoop)

theorem Stage.follows {origin service : Service} {phase : StartPhase} {made : Nat}
    (stage : Stage origin service phase made) : ∃ given, Follows origin service given := by
  cases stage <;> exact ⟨_, ‹_›⟩

end Service

namespace World

variable {origin world next : World} {happening : Happening}

/-- Whatever else happens leaves alone what starting and stopping do. -/
theorem Step.aside (step : Step world happening next) (other : happening.steers = false) :
    world.service.Aside next.service := by
  cases step with
  | time later forward => exact .refl _
  | source source => exact ⟨rfl, rfl, rfl, rfl, rfl, rfl, rfl⟩
  | registry registry => exact ⟨rfl, rfl, rfl, rfl, rfl, rfl, rfl⟩
  | loopStarts service started => cases other
  | joins => exact ⟨rfl, rfl, rfl, rfl, rfl, rfl, rfl⟩
  | begins activity fresh => exact .refl _
  | turns left right activity service progress split ran =>
      cases activity with
      | loop number phase =>
          cases ran
          exact world.service.runLoop_aside world.now number phase
      | worker id phase =>
          obtain ⟨deeds, turn⟩ := world.service.runWorker_turn world.now id phase
          cases ran
          exact turn.attends.aside
      | evaluating request waited =>
          rw [Activity.part_evaluating] at ran
          cases ran
          exact (Look.mk world.service world.now request waited).evaluates.toAttends.aside
      | starting phase => cases other
      | stopping phase => cases other
      | stoppingLoop number => cases other
      | _ =>
          obtain ⟨deeds, does⟩ := Activity.part_calm rfl rfl ran
          exact does.leavesAside
  | overlooks left right number phase phase' cache journal split ran =>
      have steady := world.service.cache.runLoop_steady world.service.journal world.now false phase
      rw [ran] at steady
      exact (world.service.withCache_rests cache journal steady).aside
  | drops left right activity split droppable =>
      obtain ⟨deeds, does⟩ := activity.dropFrom_calm world.service
      exact does.leavesAside

theorem Step.steering (step : Step world happening next) (other : happening.steers = false) :
    next.tasks.filter Activity.steers = world.tasks.filter Activity.steers := by
  cases step with
  | time later forward => rfl
  | source source => rfl
  | registry registry => rfl
  | loopStarts service started => rfl
  | joins =>
      have calm : (world.service.spawned.map Spawned.activity).filter Activity.steers = [] := by
        rw [List.filter_eq_nil_iff]
        intro activity mem
        obtain ⟨spawned, -, rfl⟩ := List.mem_map.mp mem
        cases spawned <;> simp [Spawned.activity, Activity.steers]
      rw [List.filter_append, calm, List.append_nil]
  | begins activity fresh =>
      have calm : activity.steers = false := other
      simp [List.filter_append, calm]
  | turns left right activity service progress split ran =>
      have calm : activity.steers = false := other
      have calm' : progress.rest.filter Activity.steers = [] := by
        rw [List.filter_eq_nil_iff]
        intro activity' own
        have kin := Activity.rest_kin world.service world.surroundings world.now ran activity' own
        simp [kin.steers, calm]
      simp [split, List.filter_append, calm, calm']
  | overlooks left right number phase phase' cache journal split ran =>
      simp [split, List.filter_append, Activity.steers]
  | drops left right activity split droppable =>
      have calm : activity.steers = false := other
      simp [split, List.filter_append, calm]

/-! ## Launches -/

/-- A start from its beginning in some world on, with the attempts of its gate.  Meanwhile nobody
else starts or stops the service or its loop. -/
inductive Launch (origin : World) :
    World → Progress (Except ServiceFault Unit) StartPhase → Nat → Prop where
  | begins {next : World} (step : Step origin (.begun (.starting .fresh)) next) :
      Launch origin next (.waiting .fresh) 0
  | meanwhile {world next : World} {happening : Happening} {phase : StartPhase} {made : Nat}
      (earlier : Launch origin world (.waiting phase) made) (other : happening.steers = false)
      (step : Step world happening next) : Launch origin next (.waiting phase) made
  | goesOn {world next : World} {phase : StartPhase} {made count : Nat}
      {progress : Progress (Except ServiceFault Unit) StartPhase}
      (earlier : Launch origin world (.waiting phase) made)
      (step : Step world (.turn (.starting phase) (progress.map .started .starting)) next)
      (turn : Service.StartTurn world.now world.service phase (next.service, progress) count) :
      Launch origin next progress (made + count)

/-- The service is not running and has no background loop, and nobody starts or stops it. -/
structure Idle (options : ServiceOptions) (world : World) : Prop where
  reached : ∃ beginning happenings, beginning.IsNew options ∧ Run beginning happenings world
  stopped : world.service.isRunning = false
  noLoop : world.service.isRefreshRunning = false
  calm : world.tasks.filter Activity.steers = []

variable {options : ServiceOptions} {phase : StartPhase} {made : Nat}
  {progress : Progress (Except ServiceFault Unit) StartPhase}

theorem Launch.run (launch : Launch origin world progress made) :
    ∃ happenings, Run origin happenings world := by
  induction launch with
  | begins step => exact ⟨_, .step .start step⟩
  | meanwhile earlier other step ih | goesOn earlier step turn ih =>
      obtain ⟨happenings, run⟩ := ih
      exact ⟨_, run.step step⟩

theorem Launch.reached (launch : Launch origin world progress made) (idle : origin.Idle options) :
    ∃ beginning happenings, beginning.IsNew options ∧ Run beginning happenings world := by
  obtain ⟨beginning, happenings, new, run⟩ := idle.reached
  obtain ⟨later, run'⟩ := launch.run
  exact ⟨beginning, happenings ++ later, new, run.trans run'⟩

theorem Launch.reaches (launch : Launch origin world progress made) (idle : origin.Idle options) :
    Service.Reaches origin.service world.service progress made ∧
      world.tasks.filter Activity.steers = progress.rest.map .starting := by
  induction launch with
  | begins step =>
      obtain ⟨-, stopped, noLoop, calm⟩ := idle
      cases step with
      | begins _ fresh =>
          refine ⟨.fresh ⟨rfl, rfl, rfl, by simp⟩ ?_ ?_, ?_⟩
          · exact Option.not_isSome_iff_eq_none.mp (Bool.eq_false_iff.mp stopped)
          · exact Option.not_isSome_iff_eq_none.mp (Bool.eq_false_iff.mp noLoop)
          · rw [List.filter_append, calm]
            rfl
  | meanwhile earlier other step ih =>
      obtain ⟨stage, only⟩ := ih
      exact ⟨Service.Stage.aside stage (step.aside other), (step.steering other).trans only⟩
  | @goesOn world next phase made count progress earlier step turn ih =>
      obtain ⟨stage, only⟩ := ih
      refine ⟨turn.reaches stage, ?_⟩
      generalize reached : progress.map Answer.started Activity.starting = progress' at step
      cases step with
      | turns left right _ service _ split ran =>
          rw [split, List.filter_append, List.filter_cons_of_pos rfl] at only
          -- The start is the only activity that steers, so nothing steers on either side of it.
          have alone : left.filter Activity.steers = [] ∧ right.filter Activity.steers = [] := by
            have count := congrArg List.length only
            simp only [List.length_append, List.length_cons, Progress.rest, List.map_cons,
              List.map_nil, List.length_nil] at count
            exact ⟨List.length_eq_zero_iff.mp (by omega), List.length_eq_zero_iff.mp (by omega)⟩
          rw [List.filter_append, List.filter_append, alone.1, alone.2, List.nil_append,
            List.append_nil, ← reached, Progress.rest_map]
          cases progress <;> rfl

/-! ## A launch ends -/

theorem loopEnds (world : World) {number : Nat} (told : number ∈ world.service.stopping)
    (here : Hosts world.tasks number) :
    ∃ phase progress next, Step world (.turn (.loop number phase) progress) next ∧
      number ∈ next.service.ended := by
  obtain ⟨phase, mem⟩ := here
  obtain ⟨left, right, split⟩ := List.append_of_mem mem
  have ended : number ∈ (world.service.runLoop world.now number phase).1.ended := by
    have ends := world.service.cache.runLoop_done world.service.journal world.now phase
    have stopped : world.service.stopping.contains number = true := List.contains_iff_mem.mpr told
    simp only [Service.runLoop, stopped]
    generalize world.service.cache.runLoop world.service.journal world.now true phase = run
      at ends ⊢
    obtain ⟨cache, journal, progress⟩ := run
    cases ends
    exact List.mem_append_right _ (List.mem_singleton_self _)
  exact ⟨phase, _, _, .turns left right (.loop number phase) _ _ split rfl, ended⟩

/-- Sooner or later a start that waits can go on. -/
theorem Launch.awaits (launch : Launch origin world (.waiting phase) made)
    (idle : origin.Idle options) :
    ∃ next, Launch origin next (.waiting phase) made ∧
      next.service.startCanGoOn next.now phase = true := by
  obtain ⟨stage, -⟩ := launch.reaches idle
  cases stage with
  | fresh follows shut noLoop => exact ⟨world, launch, rfl⟩
  | startingPoint split succeeded follows shut noLoop => exact ⟨world, launch, rfl⟩
  | stoppingPoint started stopped rest begins order follows shut noLoop =>
      exact ⟨world, launch, rfl⟩
  | @gating gate made succeeded follows shut loop counted wakes =>
      obtain ⟨time, wakes⟩ := Option.isSome_iff_exists.mp wakes
      refine ⟨_, launch.meanwhile rfl (.time (max world.now time) (Nat.le_max_left _ _)), ?_⟩
      simp only [Service.startCanGoOn, wakes, hasCome, decide_eq_true_eq]
      exact Nat.le_max_right _ _
  | @stoppingLoop number made fault succeeded follows shut noLoop told =>
      -- Whatever was set going takes its place first.
      obtain ⟨joined, step, told, none⟩ : ∃ joined, Step world .joined joined ∧
          number ∈ joined.service.stopping ∧ joined.service.spawned = [] :=
        ⟨_, .joins, told, rfl⟩
      have launch' := launch.meanwhile rfl step
      obtain ⟨beginning, happenings, new, run⟩ := launch'.reached idle
      obtain ⟨-, ended | here | spawned⟩ := (run.loops new).stopping number told
      · exact ⟨joined, launch', List.contains_iff_mem.mpr ended⟩
      · obtain ⟨phase, progress, next, step, ended⟩ := loopEnds joined told here
        exact ⟨next, launch'.meanwhile rfl step, List.contains_iff_mem.mpr ended⟩
      · rw [none] at spawned
        cases spawned

/-- A turn of a start that can go on brings it nearer to its end. -/
theorem Launch.nearer (launch : Launch origin world (.waiting phase) made)
    (idle : origin.Idle options) (goesOn : world.service.startCanGoOn world.now phase = true)
    {service : Service} {later : StartPhase} {count : Nat}
    (turn : Service.StartTurn world.now world.service phase (service, .waiting later) count) :
    later.distance origin.service.pipeline.points.length
        origin.service.cache.options.startupRetries.toNat <
      phase.distance origin.service.pipeline.points.length
        origin.service.cache.options.startupRetries.toNat := by
  obtain ⟨stage, -⟩ := launch.reaches idle
  obtain ⟨given, follows⟩ := stage.follows
  have near := turn.nearer stage goesOn rfl
  rwa [follows.pipeline, follows.cacheOptions] at near

theorem Launch.ends (launch : Launch origin world (.waiting phase) made)
    (idle : origin.Idle options) :
    ∃ next result made', Launch origin next (.done result) made' := by
  generalize far : phase.distance origin.service.pipeline.points.length
    origin.service.cache.options.startupRetries.toNat = distance
  -- Waiting keeps the phase and its distance; only a turn that can go on lessens it.
  induction distance using Nat.strongRecOn generalizing world phase made with
  | ind distance ih =>
      obtain ⟨ready, launch', goesOn⟩ := launch.awaits idle
      obtain ⟨-, only⟩ := launch'.reaches idle
      have mem : .starting phase ∈ ready.tasks := by
        have here : .starting phase ∈ ready.tasks.filter Activity.steers := by
          rw [only]
          exact List.mem_singleton_self _
        exact (List.mem_filter.mp here).1
      obtain ⟨left, right, split⟩ := List.append_of_mem mem
      obtain ⟨count, turn⟩ := ready.service.start_turn ready.now phase
      have ran : Activity.part ready.service ready.surroundings ready.now (.starting phase) =
          ((ready.service.start ready.now phase).1,
            (ready.service.start ready.now phase).2.map .started .starting) := rfl
      generalize ready.service.start ready.now phase = run at turn ran
      obtain ⟨service, progress⟩ := run
      have next := launch'.goesOn (.turns left right (.starting phase) _ _ split ran) turn
      cases progress with
      | done result => exact ⟨_, result, _, next⟩
      | waiting later =>
          have near := launch'.nearer idle goesOn turn
          rw [far] at near
          exact ih _ near next rfl

/-! ## Atomic starts -/

/-- The loop of the cache refreshes the policy: it has its place and was not told to stop. -/
def Refreshes (world : World) : Prop :=
  ∃ number phase, world.service.cache.loop = some number ∧
    .loop number phase ∈ world.activities ∧ number ∉ world.service.stopping

theorem Loops.refreshes (loops : world.Loops) (running : world.service.isRefreshRunning = true) :
    world.Refreshes := by
  obtain ⟨number, loop⟩ := Option.isSome_iff_exists.mp running
  obtain ⟨-, untold, ⟨phase, mem⟩ | spawned⟩ := Service.Loops.loop loops number loop
  · exact ⟨number, phase, loop, List.mem_append_right _ mem, untold⟩
  · exact ⟨number, .fresh, loop, List.mem_append_left _ (List.mem_map.mpr ⟨_, spawned, rfl⟩),
      untold⟩

def IsOpen (world : World) : Prop :=
  ∃ number shell, world.service.admission = some number ∧
    world.service.shell? number = some shell ∧ shell.isOpen = true

end World

/-- A start of an idle service ends, whatever else happens meanwhile, in one of two ways.  Either
every point was started once and in order, the loop runs, admission is open, and there is a policy
or the gate has made all its attempts.  Or what was started is stopped again, last first, no point
after one that failed was started, and the service is idle as before, so that it can be started
again.  The start of a running service does nothing. -/
theorem start_is_atomic (options : ServiceOptions) (origin : World) (idle : origin.Idle options) :
    (∀ world made, World.Launch origin world (.done (.ok ())) made →
      Service.Opened origin.service world.service made ∧ world.Refreshes ∧ world.IsOpen) ∧
    (∀ world fault made, World.Launch origin world (.done (.error fault)) made →
      (∃ started rest, Service.RolledBack origin.service world.service started rest) ∧
        world.Idle options) ∧
    (∀ world phase made, World.Launch origin world (.waiting phase) made →
      ∃ next result made', World.Launch origin next (.done result) made') ∧
    ∀ world next progress, world.service.isRunning = true →
      World.Step world (.turn (.starting .fresh) progress) next →
        next.service = world.service ∧
          progress = .done (.started (.error (.alreadyRunning "policy decision point"))) := by
  refine ⟨?_, ?_, fun _ _ _ launch => launch.ends idle, ?_⟩
  · intro world made launch
    obtain ⟨opened, -⟩ := launch.reaches idle
    obtain ⟨beginning, happenings, new, run⟩ := launch.reached idle
    refine ⟨opened, (run.loops new).refreshes opened.refreshes, ?_⟩
    obtain ⟨deeds, ledger⟩ := run.ledger
    obtain ⟨number, admits⟩ := Option.isSome_iff_exists.mp opened.running
    obtain ⟨shell, found, isOpen⟩ := (ledger.accounts new).admits number admits
    exact ⟨number, shell, admits, found, isOpen⟩
  · intro world fault made launch
    obtain ⟨⟨started, rest, rolledBack⟩, calm⟩ := launch.reaches idle
    exact ⟨⟨started, rest, rolledBack⟩, launch.reached idle, rolledBack.stopped, rolledBack.noLoop,
      calm⟩
  · intro world next progress running step
    cases step with
    | turns left right _ service _ split ran =>
        simp only [Activity.part, Service.start, running, if_true] at ran
        cases ran
        exact ⟨rfl, rfl⟩

/-! ## A point that fails -/

namespace SampleLaunch

def directory : Point :=
  ⟨"directory", false, .ok (), .error (.failed "unreachable"), .finish .succeeded⟩

def accounts : Point := ⟨"accounts", false, .error (.failed "locked"), .ok (), .finish .succeeded⟩

def permitting : Engine := fun _ _ => .decided (.new .permit [] none)

def beginning : World :=
  .start (.new .default (.always (.ok (.new "alpha" "1" .epoch))) permitting
    [directory, accounts] .empty .epoch) .default

end SampleLaunch

open SampleLaunch in
/-- The second point fails to start, and the first one is stopped, though that fails too. -/
theorem failed_point_stops_the_earlier :
    ∃ world fault made, World.Launch beginning world (.done (.error fault)) made ∧
      governingCalls world.service.calls =
        [.start directory, .start accounts, .stop directory] ∧
      (∃ started rest, Service.RolledBack beginning.service world.service started rest) ∧
      world.Idle .default := by
  have idle : beginning.Idle .default :=
    ⟨⟨beginning, [], ⟨_, _, _, _, _, _, rfl⟩, .start⟩, rfl, rfl, rfl⟩
  have begun : World.Launch beginning _ _ _ := .begins (.begins (.starting .fresh) rfl)
  have first := begun.goesOn (.turns [] [] _ _ _ rfl rfl) (.begins (by decide) .starts)
  have second := first.goesOn (.turns [] [] _ _ _ rfl rfl) (.succeeds rfl .starts)
  have stops := second.goesOn (.turns [] [] _ _ _ rfl rfl) (.fails rfl)
  have ends := stops.goesOn (.turns [] [] _ _ _ rfl rfl) .stops
  obtain ⟨-, failed, -⟩ := start_is_atomic .default beginning idle
  exact ⟨_, _, _, ends, rfl, failed _ _ _ ends⟩

end DecisionPoint
