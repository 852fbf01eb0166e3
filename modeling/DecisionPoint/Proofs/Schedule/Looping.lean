import DecisionPoint.Proofs.Schedule.Launch

/-!
# Which loops go on

The loops among the activities, each with the phase it is in.  As long as nobody starts or stops
one, a step leaves them alone, is the turn of one that goes on, or is the last turn of one that was
told to stop.
-/

set_option autoImplicit false

namespace DecisionPoint

def Activity.loop? : Activity → Option (Nat × LoopPhase)
  | loop number phase => some (number, phase)
  | _ => none

def loopsAmong (activities : List Activity) : List (Nat × LoopPhase) :=
  activities.filterMap Activity.loop?

@[simp] theorem loopsAmong_append (activities more : List Activity) :
    loopsAmong (activities ++ more) = loopsAmong activities ++ loopsAmong more :=
  List.filterMap_append

@[simp] theorem loopsAmong_loop (number : Nat) (phase : LoopPhase) (rest : List Activity) :
    loopsAmong (.loop number phase :: rest) = (number, phase) :: loopsAmong rest := rfl

theorem loopsAmong_other {activity : Activity} (other : activity.loop? = none)
    (rest : List Activity) : loopsAmong (activity :: rest) = loopsAmong rest :=
  List.filterMap_cons_none other

theorem loopsAmong_none {activities : List Activity}
    (none : ∀ activity ∈ activities, activity.loop? = none) : loopsAmong activities = [] :=
  List.filterMap_eq_nil_iff.mpr none

theorem mem_loopsAmong {number : Nat} {phase : LoopPhase} {activities : List Activity} :
    (number, phase) ∈ loopsAmong activities ↔ .loop number phase ∈ activities := by
  rw [loopsAmong, List.mem_filterMap]
  constructor
  · rintro ⟨activity, mem, here⟩
    cases activity with
    | loop number' phase' =>
        cases here
        exact mem
    | _ => cases here
  · intro mem
    exact ⟨_, mem, rfl⟩

theorem Activity.Kin.loop? {activity activity' : Activity} (kin : activity.Kin activity')
    (other : activity.loop? = none) : activity'.loop? = none := by
  cases kin <;> first | rfl | cases other

namespace Service

/-- Nobody starts a loop, tells one to stop, or ends one. -/
structure LeavesLoops (before after : Service) : Prop where
  options : after.cache.options = before.cache.options
  loop : after.cache.loop = before.cache.loop
  stopping : after.stopping = before.stopping
  ended : after.ended = before.ended
  numbers : before.nextNumber ≤ after.nextNumber

variable {a b c before after : Service}

theorem LeavesLoops.refl (service : Service) : service.LeavesLoops service :=
  ⟨rfl, rfl, rfl, rfl, Nat.le_refl _⟩

theorem LeavesLoops.trans (first : a.LeavesLoops b) (second : b.LeavesLoops c) :
    a.LeavesLoops c :=
  ⟨second.options.trans first.options, second.loop.trans first.loop,
    second.stopping.trans first.stopping, second.ended.trans first.ended,
    Nat.le_trans first.numbers second.numbers⟩

theorem Rests.leavesLoops (rests : before.Rests after) : before.LeavesLoops after :=
  ⟨rests.policy.options, rests.policy.loop, rests.stopping, rests.ended, rests.numbers⟩

theorem Attends.leavesLoops (attends : before.Attends after) : before.LeavesLoops after :=
  ⟨by rw [attends.cache], by rw [attends.cache], attends.stopping, attends.ended,
    attends.numbers⟩

theorem Does.leavesLoops {deeds : List Deed} (does : Does false before deeds after) :
    before.LeavesLoops after := by
  generalize calm : false = governing at does
  induction does with
  | rests rests => exact rests.leavesLoops
  | followed _ _ ih ih' => exact (ih calm).trans (ih' calm)
  | governs governs => cases calm
  | opens opens => cases calm
  | closes admits found => cases calm
  | forgets shut => cases calm
  | turnsAway shut => exact .refl _
  | leaves found => exact ⟨rfl, rfl, rfl, rfl, Nat.le_refl _⟩
  | _ => exact ⟨rfl, rfl, rfl, rfl, Nat.le_succ _⟩

theorem Does.spawned {deeds : List Deed} (does : Does false before deeds after) :
    after.spawned = before.spawned := by
  generalize calm : false = governing at does
  induction does with
  | rests rests => exact rests.spawned
  | followed _ _ ih ih' => exact (ih' calm).trans (ih calm)
  | governs governs => cases calm
  | opens opens => cases calm
  | closes admits found => cases calm
  | forgets shut => cases calm
  | _ => rfl

def withLoop (service : Service) : Service :=
  { service with
    cache := { service.cache with loop := some service.nextNumber }
    spawned := service.spawned ++ [.loop service.nextNumber]
    nextNumber := service.nextNumber + 1 }

theorem startRefresh_eq (service : Service) :
    service.startRefresh =
      if service.cache.options.refreshInterval.isZero then
        .error (.config "policy refresh interval must be positive")
      else if service.cache.loop.isSome then .error (.alreadyRunning "policy refresh task")
      else .ok service.withLoop := by
  simp only [startRefresh, freshNumber, PolicyCache.startRefresh]
  by_cases zero : service.cache.options.refreshInterval.isZero = true
  · simp only [zero, if_true]
  · by_cases taken : service.cache.loop.isSome = true
    · simp only [zero, taken, if_true]
      rfl
    · simp only [zero, taken]
      rfl

end Service

namespace Activity

/-- Whoever is no loop, and neither starts nor stops one, leaves the loops alone. -/
theorem part_leavesLoops {activity : Activity} {service after : Service}
    {surroundings : Surroundings} {now : Nat} {progress : Progress Answer Activity}
    (other : activity.loop? = none) (calm : activity.steers = false)
    (ran : activity.part service surroundings now = (after, progress)) :
    service.LeavesLoops after ∧ after.spawned = service.spawned := by
  cases activity with
  | loop number phase => cases other
  | worker id phase =>
      obtain ⟨deeds, turn⟩ := service.runWorker_turn now id phase
      cases ran
      exact ⟨turn.attends.leavesLoops, turn.attends.spawned⟩
  | evaluating request waited =>
      rw [part_evaluating] at ran
      cases ran
      have attends := (Look.mk service now request waited).evaluates.toAttends
      exact ⟨attends.leavesLoops, attends.spawned⟩
  | starting phase => cases calm
  | stopping phase => cases calm
  | stoppingLoop number => cases calm
  | _ =>
      obtain ⟨deeds, does⟩ := part_calm rfl rfl ran
      exact ⟨does.leavesLoops, does.spawned⟩

end Activity

namespace World

variable {world next : World} {happening : Happening}

/-- What a step comes to for the loops when nobody starts or stops one. -/
inductive LoopMove (world : World) : Happening → World → Prop where
  | aside {happening : Happening} {next : World}
      (other : ∀ number phase progress, happening ≠ .turn (.loop number phase) progress)
      (leaves : world.service.LeavesLoops next.service)
      (same : (loopsAmong next.activities).Perm (loopsAmong world.activities)) :
      LoopMove world happening next
  | goesOn {left right : List Activity} {number : Nat} {phase phase' : LoopPhase}
      {cache : PolicyCache} {journal : Journal}
      (split : world.tasks = left ++ .loop number phase :: right)
      (ran : world.service.cache.runLoop world.service.journal world.now false phase =
        (cache, journal, .waiting phase')) :
      LoopMove world (.turn (.loop number phase) (.waiting (.loop number phase')))
        { world with
          service := world.service.withCache cache journal
          tasks := left ++ .loop number phase' :: right }
  | ends {left right : List Activity} {number : Nat} {phase : LoopPhase} {cache : PolicyCache}
      {journal : Journal} (split : world.tasks = left ++ .loop number phase :: right)
      (told : number ∈ world.service.stopping)
      (ran : world.service.cache.runLoop world.service.journal world.now true phase =
        (cache, journal, .done ())) :
      LoopMove world (.turn (.loop number phase) (.done .ended))
        { world with
          service :=
            { world.service.withCache cache journal with
              ended := world.service.ended ++ [number] }
          tasks := left ++ right }

theorem loopsAmong_turn (before left right : List Activity) {rest : List Activity}
    {activity : Activity} (other : activity.loop? = none)
    (others : ∀ activity ∈ rest, activity.loop? = none) :
    loopsAmong (before ++ (left ++ rest ++ right)) =
      loopsAmong (before ++ (left ++ activity :: right)) := by
  simp [loopsAmong_none others, loopsAmong_other other]

theorem loopsAmong_split (before left right : List Activity) (number : Nat) (phase : LoopPhase) :
    (loopsAmong (before ++ (left ++ .loop number phase :: right))).Perm
      ((number, phase) :: loopsAmong (before ++ (left ++ right))) := by
  simp only [loopsAmong_append, loopsAmong_loop, ← List.append_assoc]
  exact List.perm_middle

theorem only_split {left right : List Activity} {number other : Nat} {phase phase' : LoopPhase}
    (only : loopsAmong world.activities = [(number, phase)])
    (split : world.tasks = left ++ .loop other phase' :: right) :
    other = number ∧ phase' = phase ∧
      loopsAmong (world.service.spawned.map Spawned.activity ++ (left ++ right)) = [] := by
  have moved :=
    loopsAmong_split (world.service.spawned.map Spawned.activity) left right other phase'
  rw [activities, split] at only
  rw [only] at moved
  obtain ⟨same, none⟩ := List.cons.inj (List.perm_singleton.mp moved.symm)
  obtain ⟨same, same'⟩ := Prod.mk.inj same
  exact ⟨same, same', none⟩

theorem only_goesOn {left right : List Activity} {number other : Nat}
    {phase phase' phase'' : LoopPhase} {cache : PolicyCache} {journal : Journal}
    (only : loopsAmong world.activities = [(number, phase)])
    (split : world.tasks = left ++ .loop other phase' :: right) :
    loopsAmong (activities { world with
      service := world.service.withCache cache journal
      tasks := left ++ .loop other phase'' :: right }) = [(number, phase'')] := by
  obtain ⟨rfl, -, none⟩ := only_split only split
  have moved := loopsAmong_split (world.service.spawned.map Spawned.activity) left right other
    phase''
  rw [none] at moved
  exact List.perm_singleton.mp moved

theorem loopTurn_move {left right : List Activity} {number : Nat} {phase : LoopPhase}
    {service : Service} {progress : Progress Answer Activity}
    (split : world.tasks = left ++ .loop number phase :: right)
    (ran : (Activity.loop number phase).part world.service world.surroundings world.now =
      (service, progress)) :
    LoopMove world (.turn (.loop number phase) progress)
      { world with service := service, tasks := left ++ progress.rest ++ right } := by
  simp only [Activity.part, Activity.run, Service.runLoop] at ran
  cases told : world.service.stopping.contains number with
  | false =>
      rw [told] at ran
      obtain ⟨phase', waits⟩ :=
        world.service.cache.runLoop_waiting world.service.journal world.now phase
      cases result : world.service.cache.runLoop world.service.journal world.now false phase with
      | mk cache rest =>
          obtain ⟨journal, progress'⟩ := rest
          rw [result] at waits ran
          cases waits
          cases ran
          rw [List.append_assoc]
          exact .goesOn split result
  | true =>
      rw [told] at ran
      have ends := world.service.cache.runLoop_done world.service.journal world.now phase
      cases result : world.service.cache.runLoop world.service.journal world.now true phase with
      | mk cache rest =>
          obtain ⟨journal, progress'⟩ := rest
          rw [result] at ends ran
          cases ends
          cases ran
          simp only [Progress.rest, Progress.map, List.append_nil]
          exact .ends split (List.contains_iff_mem.mp told) result

theorem Step.loopMove (step : Step world happening next) (calm : happening.steers = false) :
    LoopMove world happening next := by
  cases step with
  | time later forward => exact .aside (by simp) (.refl _) (.refl (loopsAmong world.activities))
  | source source =>
      exact .aside (by simp) ⟨rfl, rfl, rfl, rfl, Nat.le_refl _⟩
        (.refl (loopsAmong world.activities))
  | registry registry =>
      exact .aside (by simp) ⟨rfl, rfl, rfl, rfl, Nat.le_refl _⟩
        (.refl (loopsAmong world.activities))
  | loopStarts service started => cases calm
  | joins =>
      refine .aside (by simp) ⟨rfl, rfl, rfl, rfl, Nat.le_refl _⟩ ?_
      have moved : (world.tasks ++ world.service.spawned.map Spawned.activity).Perm
          world.activities := List.perm_append_comm
      exact moved.filterMap Activity.loop?
  | begins activity fresh =>
      refine .aside (by simp) (.refl _) ?_
      have other : activity.loop? = none := by
        cases activity <;> first | rfl | cases fresh
      have same : loopsAmong (world.activities ++ [activity]) = loopsAmong world.activities := by
        rw [loopsAmong_append, loopsAmong_other other]
        exact List.append_nil _
      rw [activities, ← List.append_assoc]
      exact .of_eq same
  | turns left right activity service progress split ran =>
      by_cases looping : ∃ number phase, activity = .loop number phase
      · obtain ⟨number, phase, rfl⟩ := looping
        exact loopTurn_move split ran
      · have other : activity.loop? = none := by
          cases activity with
          | loop number phase => exact absurd ⟨number, phase, rfl⟩ looping
          | _ => rfl
        obtain ⟨leaves, spawned⟩ := Activity.part_leavesLoops other calm ran
        refine .aside ?_ leaves ?_
        · rintro number phase progress ⟨⟩
          exact looping ⟨number, phase, rfl⟩
        · rw [activities, activities, spawned, split, loopsAmong_turn _ _ _ other]
          intro activity' own
          exact (Activity.rest_kin _ _ _ ran activity' own).loop? other
  | overlooks left right number phase phase' cache journal split ran => exact .goesOn split ran
  | drops left right activity split droppable =>
      obtain ⟨deeds, does⟩ := activity.dropFrom_calm world.service
      have other : activity.loop? = none := by
        cases activity <;> first | rfl | cases droppable
      refine .aside (by simp) does.leavesLoops ?_
      rw [activities, activities, does.spawned, split]
      simp only [loopsAmong_append, loopsAmong_other other, List.Perm.refl]

theorem loopsAmong_withLoop (service : Service) (tasks : List Activity) :
    (loopsAmong (service.withLoop.spawned.map Spawned.activity ++ tasks)).Perm
      ((service.nextNumber, .fresh) ::
        loopsAmong (service.spawned.map Spawned.activity ++ tasks)) := by
  simp only [Service.withLoop, List.map_append, List.append_assoc, loopsAmong_append]
  exact List.perm_middle

theorem Step.loopStart (step : Step world .loopStarted next) :
    world.service.cache.options.refreshInterval.isZero = false ∧
      world.service.cache.loop = none ∧
        next = { world with service := world.service.withLoop } := by
  cases step with
  | loopStarts service started =>
      rw [world.service.startRefresh_eq] at started
      split at started
      · cases started
      · next positive =>
          split at started
          · cases started
          · next free =>
              cases started
              exact ⟨Bool.eq_false_iff.mpr positive, Option.not_isSome_iff_eq_none.mp free, rfl⟩

end World

end DecisionPoint
