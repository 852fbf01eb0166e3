import DecisionPoint.Proofs.Schedule.Looping

/-!
# Starts and stops of the loop in turn

The loop is started and stopped by calls that do not overlap: a stop tells the loop of the cache to
end and waits until it has.  Whatever else happens meanwhile, there is at most one loop, and it is
the one of the cache or the one that the stop waits for.
-/

set_option autoImplicit false

namespace DecisionPoint

/-- A turn of a stop: it finds no loop, tells one to end, waits for its end, or returns. -/
inductive Service.StopMove (service : Service) :
    Option Nat → Service → Progress Answer Activity → Prop where
  | nothing (free : service.cache.loop = none) : StopMove service none service (.done .stopped)
  | tells {number : Nat} (running : service.cache.loop = some number) :
      StopMove service none
        { service with
          cache := { service.cache with loop := none }
          stopping := service.stopping ++ [number] }
        (.waiting (.stoppingLoop (some number)))
  | waits {number : Nat} (goesOn : number ∉ service.ended) :
      StopMove service (some number) service (.waiting (.stoppingLoop (some number)))
  | returns {number : Nat} (ended : number ∈ service.ended) :
      StopMove service (some number) service (.done .stopped)

theorem Service.stopMove {service after : Service} {surroundings : Surroundings} {now : Nat}
    {loop : Option Nat} {progress : Progress Answer Activity}
    (ran : (Activity.stoppingLoop loop).part service surroundings now = (after, progress)) :
    service.StopMove loop after progress := by
  cases loop with
  | none =>
      obtain ⟨_, ⟨_, _, _, _, _, running, _⟩, _, _, _, _, _, _, _, _, _, _⟩ := service
      simp only [Activity.part, Activity.run, dismissLoop, PolicyCache.dismissLoop] at ran
      cases running with
      | none =>
          simp only [Option.toList, List.append_nil] at ran
          cases ran
          exact .nothing rfl
      | some number =>
          cases ran
          exact .tells rfl
  | some number =>
      simp only [Activity.part, Activity.run] at ran
      by_cases ended : service.hasEnded number = true
      · rw [if_pos ended] at ran
        cases ran
        exact .returns (List.contains_iff_mem.mp ended)
      · rw [if_neg ended] at ran
        cases ran
        exact .waits fun mem => ended (List.contains_iff_mem.mpr mem)

namespace World

/-- A run in which the calls that start and stop the loop do not overlap, with the stop that is
under way before and after it: it has yet to have its turn, or waits for the end of a loop. -/
inductive InTurn (origin : World) (call : Option (Option Nat)) :
    World → Option (Option Nat) → Prop where
  | start : InTurn origin call origin call
  | meanwhile {world next : World} {happening : Happening} {stop : Option (Option Nat)}
      (earlier : InTurn origin call world stop) (step : Step world happening next)
      (calm : happening.steers = false) : InTurn origin call next stop
  | starts {world next : World} (earlier : InTurn origin call world none)
      (step : Step world .loopStarted next) : InTurn origin call next none
  | stops {world next : World} (earlier : InTurn origin call world none)
      (step : Step world (.begun (.stoppingLoop none)) next) :
      InTurn origin call next (some none)
  | waits {world next : World} {loop loop' : Option Nat}
      (earlier : InTurn origin call world (some loop))
      (step : Step world (.turn (.stoppingLoop loop) (.waiting (.stoppingLoop loop'))) next) :
      InTurn origin call next (some loop')
  | returns {world next : World} {loop : Option Nat} {answer : Answer}
      (earlier : InTurn origin call world (some loop))
      (step : Step world (.turn (.stoppingLoop loop) (.done answer)) next) :
      InTurn origin call next none

theorem InTurn.trans {a b c : World} {first second third : Option (Option Nat)}
    (earlier : InTurn a first b second) (later : InTurn b second c third) :
    InTurn a first c third := by
  induction later with
  | start => exact earlier
  | meanwhile _ step calm ih => exact .meanwhile ih step calm
  | starts _ step ih => exact .starts ih step
  | stops _ step ih => exact .stops ih step
  | waits _ step ih => exact .waits ih step
  | returns _ step ih => exact .returns ih step

theorem InTurn.run {origin world : World} {call stop : Option (Option Nat)}
    (inTurn : InTurn origin call world stop) : ∃ happenings, Run origin happenings world := by
  induction inTurn with
  | start => exact ⟨_, .start⟩
  | meanwhile _ step _ ih | starts _ step ih | stops _ step ih | waits _ step ih
  | returns _ step ih =>
      obtain ⟨happenings, run⟩ := ih
      exact ⟨_, run.step step⟩

def looping (world : World) : List Nat := (loopsAmong world.activities).map Prod.fst

inductive Standing (service : Service) : Option (Option Nat) → List Nat → Prop where
  | absent {stop : Option (Option Nat)} (idle : stop.join = none)
      (none : service.cache.loop = none) : Standing service stop []
  | runs {stop : Option (Option Nat)} {number : Nat} (idle : stop.join = none)
      (running : service.cache.loop = some number) (untold : number ∉ service.stopping) :
      Standing service stop [number]
  | told {number : Nat} (none : service.cache.loop = none) (told : number ∈ service.stopping)
      (goesOn : number ∉ service.ended) : Standing service (some (some number)) [number]
  | ended {number : Nat} (none : service.cache.loop = none) (ended : number ∈ service.ended) :
      Standing service (some (some number)) []

/-- Loops that were told to stop or have ended are known by their numbers. -/
structure Tracked (stop : Option (Option Nat)) (world : World) : Prop where
  given : ∀ number ∈ world.looping, number < world.service.nextNumber
  told : ∀ number ∈ world.service.stopping, number < world.service.nextNumber
  ended : ∀ number ∈ world.service.ended, number ∈ world.service.stopping
  standing : Standing world.service stop world.looping

section Steps

variable {world next : World} {happening : Happening} {stop : Option (Option Nat)}

theorem Tracked.still (tracked : world.Tracked stop)
    (leaves : world.service.LeavesLoops next.service) (same : next.looping = world.looping) :
    next.Tracked stop := by
  obtain ⟨given, told, ended, standing⟩ := tracked
  refine ⟨?_, ?_, ?_, ?_⟩
  · intro number mem
    exact Nat.lt_of_lt_of_le (given number (same ▸ mem)) leaves.numbers
  · intro number mem
    exact Nat.lt_of_lt_of_le (told number (leaves.stopping ▸ mem)) leaves.numbers
  · rw [leaves.ended, leaves.stopping]
    exact ended
  · rw [same]
    generalize world.looping = numbers at standing
    cases standing with
    | absent idle none => exact .absent idle (leaves.loop.trans none)
    | runs idle running untold =>
        exact .runs idle (leaves.loop.trans running) (leaves.stopping ▸ untold)
    | told none told goesOn =>
        exact .told (leaves.loop.trans none) (leaves.stopping ▸ told) (leaves.ended ▸ goesOn)
    | ended none ended => exact .ended (leaves.loop.trans none) (leaves.ended ▸ ended)

theorem Standing.length_le {service : Service} {numbers : List Nat}
    (standing : Standing service stop numbers) : numbers.length ≤ 1 := by
  cases standing <;> simp

theorem Standing.eq_of_perm {service : Service} {numbers numbers' : List Nat}
    (standing : Standing service stop numbers) (same : numbers'.Perm numbers) :
    numbers' = numbers := by
  cases standing with
  | absent idle none => exact List.perm_nil.mp same
  | ended none ended => exact List.perm_nil.mp same
  | runs idle running untold => exact List.perm_singleton.mp same
  | told none told goesOn => exact List.perm_singleton.mp same

theorem Tracked.only (tracked : world.Tracked stop) {number : Nat} {phase : LoopPhase}
    (here : .loop number phase ∈ world.activities) :
    loopsAmong world.activities = [(number, phase)] := by
  have few : (loopsAmong world.activities).length ≤ 1 := by
    rw [← List.length_map Prod.fst]
    exact tracked.standing.length_le
  rw [← mem_loopsAmong] at here
  generalize loopsAmong world.activities = loops at few here
  match loops with
  | [] => cases here
  | [loop] => rw [List.mem_singleton.mp here]
  | _ :: _ :: _ => simp at few

theorem looping_split {left right : List Activity} {number : Nat} {phase : LoopPhase}
    (split : world.tasks = left ++ .loop number phase :: right) :
    world.looping.Perm (number ::
      looping { world with tasks := left ++ right }) := by
  rw [looping, activities, split]
  exact (loopsAmong_split _ left right number phase).map Prod.fst

theorem looping_goesOn {left right : List Activity} {number : Nat} {phase phase' : LoopPhase}
    {cache : PolicyCache} {journal : Journal}
    (split : world.tasks = left ++ .loop number phase :: right) :
    (looping { world with
      service := world.service.withCache cache journal
      tasks := left ++ .loop number phase' :: right }).Perm world.looping :=
  .trans ((loopsAmong_split (world.service.spawned.map Spawned.activity) left right number
    phase').map Prod.fst) (looping_split split).symm

theorem Standing.idle {service : Service} {numbers : List Nat} {stop' : Option (Option Nat)}
    (standing : Standing service stop numbers) (before : stop.join = none)
    (after : stop'.join = none) : Standing service stop' numbers := by
  cases standing with
  | absent idle none => exact .absent after none
  | runs idle running untold => exact .runs after running untold
  | told none told goesOn => cases before
  | ended none ended => cases before

theorem Standing.free {service : Service} {numbers : List Nat}
    (standing : Standing service stop numbers) (free : service.cache.loop = none)
    (idle : stop.join = none) : numbers = [] := by
  cases standing with
  | absent idle' none => rfl
  | ended none ended => rfl
  | told none told goesOn => cases idle
  | runs idle' running untold =>
      rw [free] at running
      cases running

theorem Standing.running {service : Service} {numbers : List Nat} {number : Nat}
    (standing : Standing service stop numbers) (running : service.cache.loop = some number) :
    numbers = [number] ∧ number ∉ service.stopping := by
  cases standing with
  | runs idle running' untold =>
      rw [running] at running'
      cases running'
      exact ⟨rfl, untold⟩
  | absent idle none | told none told goesOn | ended none ended =>
      rw [none] at running
      cases running

theorem Standing.gone {service : Service} {numbers : List Nat} {number : Nat}
    (standing : Standing service (some (some number)) numbers) (gone : number ∈ service.ended) :
    service.cache.loop = none ∧ numbers = [] := by
  cases standing with
  | absent idle none => cases idle
  | runs idle running untold => cases idle
  | told none told goesOn => exact absurd gone goesOn
  | ended none ended => exact ⟨none, rfl⟩

theorem Standing.awaited {service : Service} {numbers : List Nat} {number : Nat}
    (standing : Standing service (some (some number)) numbers) (goesOn : number ∉ service.ended) :
    numbers = [number] ∧ number ∈ service.stopping := by
  cases standing with
  | absent idle none => cases idle
  | runs idle running untold => cases idle
  | told none told goesOn => exact ⟨rfl, told⟩
  | ended none ended => exact absurd ended goesOn

theorem Standing.own {service : Service} {numbers others : List Nat} {number : Nat}
    (standing : Standing service stop numbers) (told : number ∈ service.stopping)
    (moved : numbers.Perm (number :: others)) :
    (stop = some (some number) ∧ service.cache.loop = none) ∧ others = [] := by
  cases standing with
  | absent idle none => cases List.perm_nil.mp moved.symm
  | ended none ended => cases List.perm_nil.mp moved.symm
  | runs idle running untold =>
      cases List.perm_singleton.mp moved.symm
      exact absurd told untold
  | told none told' goesOn =>
      cases List.perm_singleton.mp moved.symm
      exact ⟨⟨rfl, none⟩, rfl⟩

theorem looping_withLoop (world : World) :
    (looping { world with service := world.service.withLoop }).Perm
      (world.service.nextNumber :: world.looping) :=
  (loopsAmong_withLoop world.service world.tasks).map Prod.fst

theorem Tracked.meanwhile (tracked : world.Tracked stop) (step : Step world happening next)
    (calm : happening.steers = false) : next.Tracked stop := by
  cases step.loopMove calm with
  | aside other leaves same =>
      exact tracked.still leaves (tracked.standing.eq_of_perm (same.map Prod.fst))
  | @goesOn left right number phase phase' cache journal split ran =>
      have steady := world.service.cache.runLoop_steady world.service.journal world.now false phase
      rw [ran] at steady
      refine tracked.still ⟨steady.options, steady.loop, rfl, rfl, Nat.le_refl _⟩ ?_
      exact tracked.standing.eq_of_perm (looping_goesOn split)
  | @ends left right number phase cache journal split told ran =>
      have steady := world.service.cache.runLoop_steady world.service.journal world.now true phase
      rw [ran] at steady
      obtain ⟨⟨rfl, free⟩, gone⟩ := tracked.standing.own told (looping_split split)
      have none : looping { world with
          service := { world.service.withCache cache journal with
            ended := world.service.ended ++ [number] }
          tasks := left ++ right } = [] := gone
      refine ⟨?_, tracked.told, ?_, ?_⟩
      · rw [none]
        simp
      · intro other mem
        rcases List.mem_append.mp mem with before | now
        · exact tracked.ended other before
        · cases List.mem_singleton.mp now
          exact told
      · rw [none]
        exact .ended (steady.loop.trans free) (List.mem_append_right _ List.mem_cons_self)

theorem Tracked.starts (tracked : world.Tracked none)
    (step : Step world .loopStarted next) : next.Tracked none := by
  obtain ⟨-, free, rfl⟩ := step.loopStart
  obtain ⟨given, told, ended, standing⟩ := tracked
  have moved := world.looping_withLoop
  rw [standing.free free rfl] at moved
  have only := List.perm_singleton.mp moved
  refine ⟨?_, ?_, ended, ?_⟩
  · rw [only]
    intro number mem
    cases List.mem_singleton.mp mem
    exact Nat.lt_succ_self _
  · intro number mem
    exact Nat.lt_succ_of_lt (told number mem)
  · rw [only]
    refine .runs rfl rfl ?_
    intro mem
    exact Nat.lt_irrefl _ (told _ mem)

theorem Tracked.stops (tracked : world.Tracked none)
    (step : Step world (.begun (.stoppingLoop none)) next) : next.Tracked (some none) := by
  cases step with
  | begins activity fresh =>
      have same : loopsAmong (world.activities ++ [.stoppingLoop none]) =
          loopsAmong world.activities := by
        rw [loopsAmong_append, loopsAmong_other rfl]
        exact List.append_nil _
      have looping : looping { world with tasks := world.tasks ++ [.stoppingLoop none] } =
          world.looping := by
        rw [World.looping, World.looping, ← same, activities, activities, List.append_assoc]
      obtain ⟨given, told, ended, standing⟩ := tracked
      refine ⟨by rwa [looping], told, ended, ?_⟩
      rw [looping]
      exact standing.idle rfl rfl

theorem Step.stopMove {loop : Option Nat} {progress : Progress Answer Activity}
    (step : Step world (.turn (.stoppingLoop loop) progress) next) :
    world.service.StopMove loop next.service progress ∧
      loopsAmong next.activities = loopsAmong world.activities ∧
      ∃ left right, world.tasks = left ++ .stoppingLoop loop :: right ∧
        next.tasks = left ++ progress.rest ++ right := by
  cases step with
  | turns left right activity service progress split ran =>
      have move := Service.stopMove ran
      refine ⟨move, ?_, left, right, split, rfl⟩
      have spawned : service.spawned = world.service.spawned := by
        cases move <;> rfl
      have other : (Activity.stoppingLoop loop).loop? = none := rfl
      rw [activities, activities, spawned, split, loopsAmong_turn _ _ _ other]
      intro activity own
      exact (Activity.rest_kin _ _ _ ran activity own).loop? rfl

theorem Tracked.stopTurn {loop : Option Nat} {progress : Progress Answer Activity}
    (tracked : world.Tracked (some loop))
    (step : Step world (.turn (.stoppingLoop loop) progress) next) :
    (progress = .done .stopped ∧ next.Tracked none) ∨
      ∃ number, progress = .waiting (.stoppingLoop (some number)) ∧
        next.Tracked (some (some number)) := by
  obtain ⟨move, same, -⟩ := step.stopMove
  have looping : next.looping = world.looping := congrArg (List.map Prod.fst) same
  obtain ⟨given, told, ended, standing⟩ := tracked
  rw [← looping] at given standing
  generalize after : next.service = service at move
  cases move with
  | nothing free =>
      refine .inl ⟨rfl, ?_, ?_, ?_, ?_⟩ <;> rw [after]
      · exact given
      · exact told
      · exact ended
      · exact standing.idle rfl rfl
  | @tells number running =>
      obtain ⟨only, untold⟩ := standing.running running
      refine .inr ⟨number, rfl, ?_, ?_, ?_, ?_⟩ <;> rw [after]
      · exact given
      · intro other mem
        rcases List.mem_append.mp mem with before | now
        · exact told other before
        · cases List.mem_singleton.mp now
          exact given number (by rw [only]; exact List.mem_cons_self)
      · intro other mem
        exact List.mem_append_left _ (ended other mem)
      · rw [only]
        exact .told rfl (List.mem_append_right _ List.mem_cons_self)
          fun mem => untold (ended number mem)
  | @waits number goesOn =>
      refine .inr ⟨number, rfl, ?_, ?_, ?_, ?_⟩ <;> rw [after]
      · exact given
      · exact told
      · exact ended
      · exact standing
  | returns gone =>
      refine .inl ⟨rfl, ?_, ?_, ?_, ?_⟩ <;> rw [after]
      · exact given
      · exact told
      · exact ended
      · obtain ⟨free, none⟩ := standing.gone gone
        rw [none]
        exact .absent rfl free

end Steps

theorem InTurn.tracked {origin world : World} {call stop : Option (Option Nat)}
    (inTurn : InTurn origin call world stop) (tracked : origin.Tracked call) :
    world.Tracked stop := by
  induction inTurn with
  | start => exact tracked
  | meanwhile _ step calm ih => exact ih.meanwhile step calm
  | starts _ step ih => exact ih.starts step
  | stops _ step ih => exact ih.stops step
  | waits _ step ih =>
      rcases ih.stopTurn step with ⟨returned, -⟩ | ⟨number, waits, next⟩
      · cases returned
      · cases waits
        exact next
  | returns _ step ih =>
      rcases ih.stopTurn step with ⟨-, next⟩ | ⟨number, waits, -⟩
      · exact next
      · cases waits

theorem InTurn.calls {origin world : World} {call stop : Option (Option Nat)}
    (inTurn : InTurn origin call world stop)
    (calls : origin.tasks.filter Activity.steers = call.toList.map Activity.stoppingLoop) :
    world.tasks.filter Activity.steers = stop.toList.map Activity.stoppingLoop := by
  -- A turn of the only call leaves what is left of it.
  have turned {world next : World} {loop : Option Nat} {progress : Progress Answer Activity}
      (only : world.tasks.filter Activity.steers = [.stoppingLoop loop])
      (step : Step world (.turn (.stoppingLoop loop) progress) next) :
      next.tasks.filter Activity.steers = progress.rest.filter Activity.steers := by
    obtain ⟨-, -, left, right, split, after⟩ := step.stopMove
    rw [split, List.filter_append, List.filter_cons_of_pos rfl,
      List.append_eq_singleton_iff] at only
    rcases only with ⟨none, others⟩ | ⟨others, none⟩
    · rw [after, List.filter_append, List.filter_append, none, (List.cons.inj others).2,
        List.nil_append, List.append_nil]
    · cases none
  induction inTurn with
  | start => exact calls
  | meanwhile _ step calm ih => rw [step.steering calm, ih]
  | starts _ step ih =>
      obtain ⟨-, -, rfl⟩ := step.loopStart
      exact ih
  | stops _ step ih =>
      cases step with
      | begins activity fresh =>
          rw [List.filter_append, ih]
          rfl
  | waits _ step ih => exact turned ih step
  | returns _ step ih => exact turned ih step

end World

end DecisionPoint
