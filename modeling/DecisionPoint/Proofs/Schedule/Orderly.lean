import DecisionPoint.Proofs.Admission.Awaiting
import DecisionPoint.Proofs.Schedule.Launch

/-!
# One operation at a time

Starts and shutdowns that come one after another, and that are waited for, leave no workers behind:
every shell but the one that takes requests has drained, or a shutdown is waiting for it.
-/

set_option autoImplicit false

namespace DecisionPoint

namespace Service

/-- No shell is added, and none gets more workers. -/
def Thins (before after : Service) : Prop :=
  ∀ number shell', after.shell? number = some shell' →
    ∃ shell, before.shell? number = some shell ∧ shell'.alive ≤ shell.alive

theorem Shrinks.thins {before after : Service} (shrinks : before.Shrinks after) :
    before.Thins after := by
  intro number shell' found'
  obtain ⟨shell, found, -, alive⟩ := shrinks number shell' found'
  exact ⟨shell, found, alive⟩

theorem Thins.trans {a b c : Service} (first : a.Thins b) (second : b.Thins c) : a.Thins c := by
  intro number shell'' found''
  obtain ⟨shell', found', alive'⟩ := second number shell'' found''
  obtain ⟨shell, found, alive⟩ := first number shell' found'
  exact ⟨shell, found, Nat.le_trans alive' alive⟩

theorem Does.thins {before after : Service} {deeds : List Deed}
    (does : Does false before deeds after) : before.Thins after := by
  generalize calm : false = governing at does
  induction does with
  | rests rests => exact (Shrinks.ofShells rests.shells).thins
  | @accepts governing service number shell shell' request admits found answer =>
      obtain ⟨-, -, rfl⟩ := (shell.submit_eq_ok_iff shell' _).mp answer
      intro other shell'' found'
      change (service.withShell number _).shell? other = some shell'' at found'
      rw [service.shell?_withShell found] at found'
      split at found'
      · next same =>
          cases found'
          exact ⟨shell, same ▸ found, Nat.le_refl _⟩
      · exact ⟨shell'', found', Nat.le_refl _⟩
  | @isBusy governing service number shell request admits found answer =>
      have refused : service.Shrinks (service.withShell number shell.refuse) :=
        .ofWithShell found (List.Subset.refl _) (Nat.le_refl _)
      exact (refused.trans (.ofShells rfl)).thins
  | @leaves governing service ticket shell found =>
      have left := service.leave_shrinks ticket
      rw [leave, found] at left
      exact left.thins
  | followed _ _ ih ih' => exact (ih calm).trans (ih' calm)
  | isClosed admits found answer => exact (Shrinks.ofShells rfl).thins
  | turnsAway shut => exact (Shrinks.ofShells rfl).thins
  | _ => cases calm

/-! ## What starting and stopping do to shells -/

structure OpensShell (before after : Service) (number : Nat) (shell : Shell) : Prop where
  admission : after.admission = some number
  shells : after.shells = before.shells ++ [(number, shell)]

structure LeavesShells (before after : Service) : Prop where
  admission : after.admission = before.admission
  shells : after.shells = before.shells

section Functions

variable (service : Service) (now : Nat)

theorem rollBack_leavesShells (fault : ServiceFault) (points : List Point) :
    service.LeavesShells (service.rollBack fault points).1 := by
  cases points <;> exact ⟨rfl, rfl⟩

theorem stopPoints_leavesShells (points : List Point) :
    service.LeavesShells (service.stopPoints points).1 := by
  cases points <;> exact ⟨rfl, rfl⟩

theorem stopRefresh_leavesShells : service.LeavesShells service.stopRefresh.1 := by
  have dismissed : service.LeavesShells service.dismissLoop.1 := ⟨rfl, rfl⟩
  unfold stopRefresh
  generalize service.dismissLoop = run at dismissed ⊢
  split
  · exact dismissed
  · next after =>
      have stopped := stopPoints_leavesShells after after.pipeline.points.reverse
      exact ⟨stopped.admission.trans dismissed.admission, stopped.shells.trans dismissed.shells⟩

/-- A start leaves the shells alone, or it ends with a new one. -/
def StartsWell (before : Service) (run : Starting) : Prop :=
  before.LeavesShells run.1 ∨
    run.2 = .done (.ok ()) ∧ ∃ number shell, before.OpensShell run.1 number shell

theorem StartsWell.after {a b : Service} {run : Starting} (leaves : a.LeavesShells b)
    (starts : StartsWell b run) : StartsWell a run := by
  obtain ⟨admission, shells⟩ := leaves
  rcases starts with ⟨admission', shells'⟩ | ⟨done, number, shell, admission', shells'⟩
  · exact .inl ⟨admission'.trans admission, shells'.trans shells⟩
  · exact .inr ⟨done, number, shell, admission', shells ▸ shells'⟩

theorem openAdmission_startsWell : StartsWell service service.openAdmission := by
  have dismissed : service.LeavesShells service.dismissLoop.1 := ⟨rfl, rfl⟩
  unfold openAdmission
  split
  · next shell opens => exact .inr ⟨rfl, service.nextNumber, shell, rfl, rfl⟩
  · generalize service.dismissLoop = run at dismissed ⊢
    split
    · exact .inl dismissed
    · exact .after dismissed (.inl (rollBack_leavesShells _ _ _))

theorem afterGate_startsWell (run : PolicyCache.GateRun) :
    StartsWell service (service.afterGate run) := by
  obtain ⟨cache, journal, progress⟩ := run
  have cached : service.LeavesShells (service.withCache cache journal) := ⟨rfl, rfl⟩
  cases progress with
  | waiting gate => exact .inl cached
  | done value => exact .after cached (openAdmission_startsWell _)

theorem startPoints_startsWell (started later : List Point) :
    StartsWell service (service.startPoints now started later) := by
  cases later with
  | cons point later => exact .inl ⟨rfl, rfl⟩
  | nil =>
      simp only [startPoints]
      split
      · exact .inl (service.rollBack_leavesShells _ _)
      · next begun begins =>
          have governs := service.startRefresh_governs begun begins
          exact .after ⟨governs.admission, governs.shells⟩ (begun.afterGate_startsWell _)

theorem start_startsWell (phase : StartPhase) : StartsWell service (service.start now phase) := by
  cases phase with
  | fresh =>
      simp only [start]
      split
      · exact .inl ⟨rfl, rfl⟩
      · exact service.startPoints_startsWell now [] _
  | startingPoint started point later =>
      simp only [start]
      split
      · exact service.startPoints_startsWell now _ later
      · exact .inl (service.rollBack_leavesShells _ _)
  | gating gate => exact service.afterGate_startsWell _
  | stoppingLoop number fault =>
      simp only [start]
      split
      · exact .inl (service.rollBack_leavesShells _ _)
      · exact .inl ⟨rfl, rfl⟩
  | stoppingPoint later fault => exact .inl (service.rollBack_leavesShells fault later)

theorem runLoop_leavesShells (number : Nat) (phase : LoopPhase) :
    service.LeavesShells (service.runLoop now number phase).1 := by
  unfold runLoop
  generalize service.cache.runLoop service.journal now (service.stopping.contains number) phase =
    run
  obtain ⟨cache, journal, progress⟩ := run
  cases progress <;> exact ⟨rfl, rfl⟩

end Functions

end Service

namespace World

variable {world next : World} {happening : Happening}

theorem Step.thins (step : Step world happening next) (other : happening.steers = false) :
    world.service.Thins next.service := by
  have same {after : Service} (shells : after.shells = world.service.shells) :
      world.service.Thins after :=
    (Service.Shrinks.ofShells shells).thins
  cases step with
  | time later forward => exact same rfl
  | source source => exact same rfl
  | registry registry => exact same rfl
  | loopStarts service started => cases other
  | joins => exact same rfl
  | begins activity fresh => exact same rfl
  | turns left right activity service progress split ran =>
      cases activity with
      | loop number phase =>
          cases ran
          exact same (world.service.runLoop_leavesShells world.now number phase).shells
      | worker id phase =>
          obtain ⟨deeds, turn⟩ := world.service.runWorker_turn world.now id phase
          cases ran
          exact turn.shrinks.thins
      | evaluating request waited =>
          rw [Activity.part_evaluating] at ran
          cases ran
          exact same (Look.mk world.service world.now request waited).evaluates.shells
      | starting phase => cases other
      | stopping phase => cases other
      | stoppingLoop number => cases other
      | _ =>
          obtain ⟨deeds, does⟩ := Activity.part_calm rfl rfl ran
          exact does.thins
  | overlooks left right number phase phase' cache journal split ran => exact same rfl
  | drops left right activity split droppable =>
      obtain ⟨deeds, does⟩ := activity.dropFrom_calm world.service
      exact does.thins

/-! ## Orderly runs -/

/-- A start or a shutdown begins only when there is no other, and whoever calls for a shutdown waits
for it. -/
def KeepsOrder (world : World) : Happening → Prop
  | .begun activity => activity.steers = true → world.tasks.filter Activity.steers = []
  | .dropped (.stopping _) => False
  | _ => True

/-- A run in which starts and shutdowns came one after another. -/
inductive Orderly (beginning : World) : List Happening → World → Prop where
  | start : Orderly beginning [] beginning
  | step {happenings : List Happening} {world next : World} {happening : Happening}
      (earlier : Orderly beginning happenings world) (step : Step world happening next)
      (order : world.KeepsOrder happening) : Orderly beginning (happenings ++ [happening]) next

theorem Orderly.run {beginning : World} {happenings : List Happening}
    (orderly : Orderly beginning happenings world) : Run beginning happenings world := by
  induction orderly with
  | start => exact .start
  | step _ step _ ih => exact ih.step step

/-- Every shell takes requests, has drained, or is waited for. -/
structure Settled (world : World) : Prop where
  single : (world.tasks.filter Activity.steers).length ≤ 1
  starting : ∀ phase, .starting phase ∈ world.tasks → phase ≠ .fresh →
    world.service.admission = none
  shells : ∀ number shell, world.service.shell? number = some shell →
    world.service.admission = some number ∨ shell.alive = 0 ∨
      .stopping (.draining number) ∈ world.tasks

theorem mem_of_steering {activity : Activity}
    (same : next.tasks.filter Activity.steers = world.tasks.filter Activity.steers)
    (steers : activity.steers = true) : activity ∈ next.tasks ↔ activity ∈ world.tasks := by
  have mem := congrArg (activity ∈ ·) same
  simpa [steers] using mem

theorem Settled.meanwhile (settled : world.Settled) (step : Step world happening next)
    (other : happening.steers = false) : next.Settled := by
  have same := step.steering other
  have admission := (step.aside other).admission
  refine ⟨same ▸ settled.single, ?_, ?_⟩
  · intro phase mem begun
    rw [admission]
    exact settled.starting phase ((mem_of_steering same rfl).mp mem) begun
  · intro number shell' found'
    obtain ⟨shell, found, alive⟩ := step.thins other number shell' found'
    rw [admission, mem_of_steering same rfl]
    rcases settled.shells number shell found with admits | drained | waits
    · exact .inl admits
    · exact .inr (.inl (Nat.le_zero.mp (drained ▸ alive)))
    · exact .inr (.inr waits)

section Turns

variable {left right : List Activity} {activity : Activity} {after : Service}
  {progress : Progress Answer Activity}

/-- Nothing else steers beside an activity that does. -/
theorem Settled.alone (settled : world.Settled) (split : world.tasks = left ++ activity :: right)
    (steers : activity.steers = true) :
    left.filter Activity.steers = [] ∧ right.filter Activity.steers = [] := by
  have single := settled.single
  rw [split, List.filter_append, List.filter_cons_of_pos steers, List.length_append,
    List.length_cons] at single
  exact ⟨List.length_eq_zero_iff.mp (by omega), List.length_eq_zero_iff.mp (by omega)⟩

theorem Settled.shell (settled : world.Settled) (split : world.tasks = left ++ activity :: right)
    (steers : activity.steers = true) {number : Nat} {shell : Shell}
    (found : world.service.shell? number = some shell) :
    world.service.admission = some number ∨ shell.alive = 0 ∨
      activity = .stopping (.draining number) := by
  obtain ⟨before, behind⟩ := settled.alone split steers
  refine (settled.shells number shell found).imp_right (Or.imp_right fun mem => ?_)
  rw [split, List.mem_append, List.mem_cons] at mem
  rcases mem with early | same | late
  · exact absurd rfl (List.filter_eq_nil_iff.mp before _ early)
  · exact same.symm
  · exact absurd rfl (List.filter_eq_nil_iff.mp behind _ late)

theorem Settled.turned (settled : world.Settled) (split : world.tasks = left ++ activity :: right)
    (steers : activity.steers = true)
    (starting : ∀ phase, .starting phase ∈ progress.rest → phase ≠ .fresh → after.admission = none)
    (shells : ∀ number shell, after.shell? number = some shell →
      after.admission = some number ∨ shell.alive = 0 ∨
        .stopping (.draining number) ∈ progress.rest) :
    Settled { world with service := after, tasks := left ++ progress.rest ++ right } := by
  obtain ⟨before, behind⟩ := settled.alone split steers
  refine ⟨?_, ?_, ?_⟩
  · have few : progress.rest.length ≤ 1 := by cases progress <;> simp [Progress.rest]
    simp only [List.filter_append, before, behind, List.nil_append, List.append_nil]
    exact Nat.le_trans (List.length_filter_le _ _) few
  · intro phase mem begun
    simp only [List.mem_append] at mem
    rcases mem with (early | own) | late
    · exact absurd rfl (List.filter_eq_nil_iff.mp before _ early)
    · exact starting phase own begun
    · exact absurd rfl (List.filter_eq_nil_iff.mp behind _ late)
  · intro number shell found
    refine (shells number shell found).imp_right (Or.imp_right fun own => ?_)
    exact List.mem_append_left _ (List.mem_append_right _ own)

/-- A start that goes on finds the service without a shell for requests. -/
theorem Settled.starts {phase : StartPhase} (settled : world.Settled)
    (split : world.tasks = left ++ .starting phase :: right) :
    world.service.admission = none ∨ ∃ fault,
      world.service.start world.now phase = (world.service, .done (.error fault)) := by
  by_cases fresh : phase = .fresh
  · subst fresh
    cases running : world.service.isRunning with
    | true => exact .inr ⟨_, by simp only [Service.start, running, if_true]; rfl⟩
    | false => exact .inl (Option.not_isSome_iff_eq_none.mp (Bool.eq_false_iff.mp running))
  · exact .inl (settled.starting phase (by simp [split]) fresh)

theorem Settled.start {phase : StartPhase} (settled : world.Settled)
    (split : world.tasks = left ++ .starting phase :: right)
    (ran : (Activity.starting phase).part world.service world.surroundings world.now =
      (after, progress)) :
    Settled { world with service := after, tasks := left ++ progress.rest ++ right } := by
  have starts := world.service.start_startsWell world.now phase
  have shut := settled.starts split
  simp only [Activity.part] at ran
  generalize world.service.start world.now phase = run at starts shut ran
  obtain ⟨after', progress'⟩ := run
  obtain ⟨rfl, rfl⟩ := Prod.mk.inj ran
  refine settled.turned split rfl ?_ ?_
  · intro phase' own begun
    rw [Progress.rest_map] at own
    rcases shut with shut | ⟨fault, refused⟩
    · rcases starts with leaves | ⟨done, -⟩
      · exact leaves.admission.trans shut
      · cases done
        simp [Progress.rest] at own
    · cases refused
      simp [Progress.rest] at own
  · intro number shell found
    rcases starts with leaves | ⟨-, opened, shell', opens⟩
    · have found' : world.service.shell? number = some shell := by
        rw [Service.shell?, ← leaves.shells]
        exact found
      rw [leaves.admission]
      rcases settled.shell split rfl found' with admits | drained | waits
      · exact .inl admits
      · exact .inr (.inl drained)
      · cases waits
    · rcases shut with shut | ⟨fault, refused⟩
      · rw [opens.admission]
        rw [Service.shell?, opens.shells, List.lookup_append, Option.or_eq_some_iff] at found
        rcases found with old | ⟨-, new⟩
        · rcases settled.shell split rfl old with admits | drained | waits
          · rw [shut] at admits
            cases admits
          · exact .inr (.inl drained)
          · cases waits
        · rw [List.lookup_cons] at new
          split at new
          · next same => exact .inl (congrArg some (beq_iff_eq.mp same).symm)
          · cases new
      · -- A start that is refused opens nothing.
        cases refused
        have same := congrArg List.length opens.shells
        simp at same

theorem Settled.leaves (settled : world.Settled)
    (split : world.tasks = left ++ activity :: right) (steers : activity.steers = true)
    (leaves : world.service.LeavesShells after)
    (starting : ∀ phase, .starting phase ∉ progress.rest)
    (drains : ∀ number, activity = .stopping (.draining number) →
      world.service.hasDrained number = true ∨ .stopping (.draining number) ∈ progress.rest) :
    Settled { world with service := after, tasks := left ++ progress.rest ++ right } := by
  refine settled.turned split steers (fun phase own => absurd own (starting phase)) ?_
  intro number shell found
  have found' : world.service.shell? number = some shell := by
    rw [Service.shell?, ← leaves.shells]
    exact found
  rw [leaves.admission]
  rcases settled.shell split steers found' with admits | drained | waits
  · exact .inl admits
  · exact .inr (.inl drained)
  · rcases drains number waits with drained | waits'
    · refine .inr (.inl ?_)
      simpa [Service.hasDrained, found'] using drained
    · exact .inr (.inr waits')

/-- When a shutdown begins, it waits for the shell that takes requests. -/
theorem Settled.shuts {number : Nat} (settled : world.Settled)
    (split : world.tasks = left ++ .stopping .fresh :: right)
    (admits : world.service.admission = some number)
    (starting : ∀ phase, .starting phase ∉ progress.rest)
    (others : ∀ other shell, other ≠ number → after.shell? other = some shell →
      world.service.shell? other = some shell)
    (waits : ∀ shell, after.shell? number = some shell →
      .stopping (.draining number) ∈ progress.rest) :
    Settled { world with service := after, tasks := left ++ progress.rest ++ right } := by
  refine settled.turned split rfl (fun phase own => absurd own (starting phase)) ?_
  intro other shell found
  by_cases same : other = number
  · subst same
    exact .inr (.inr (waits shell found))
  · rcases settled.shell split rfl (others other shell same found) with admits' | drained | waits
    · rw [admits] at admits'
      exact absurd (Option.some.inj admits').symm same
    · exact .inr (.inl drained)
    · cases waits

theorem Settled.stop {phase : StopPhase} (settled : world.Settled)
    (split : world.tasks = left ++ .stopping phase :: right)
    (ran : (Activity.stopping phase).part world.service world.surroundings world.now =
      (after, progress)) :
    Settled { world with service := after, tasks := left ++ progress.rest ++ right } := by
  simp only [Activity.part] at ran
  obtain ⟨rfl, rfl⟩ := Prod.mk.inj ran
  have noStart (run : Progress Unit StopPhase) (phase : StartPhase) :
      .starting phase ∉ (run.map (fun _ => Answer.stopped) Activity.stopping).rest := by
    simp [Progress.rest_map]
  cases phase with
  | fresh =>
      cases admits : world.service.admission with
      | none =>
          refine settled.leaves split rfl ?_ (noStart _) (by simp)
          simpa only [Service.shutdown, admits] using world.service.stopRefresh_leavesShells
      | some number =>
          cases here : world.service.shell? number with
          | none =>
              have leaves := { world.service with admission := none }.stopRefresh_leavesShells
              have same (other : Nat) : (world.service.shutdown .fresh).1.shell? other =
                  world.service.shell? other := by
                simp only [Service.shutdown, admits, here]
                exact congrArg (List.lookup other) leaves.shells
              refine settled.shuts split admits (noStart _) ?_ ?_
              · intro other shell _ found
                rw [← same]
                exact found
              · intro shell found
                rw [same, here] at found
                cases found
          | some shell =>
              have closed (other : Nat) : (world.service.shutdown .fresh).1.shell? other =
                  if other = number then some shell.close else world.service.shell? other := by
                simp only [Service.shutdown, admits, here]
                exact world.service.shell?_withShell here shell.close other
              refine settled.shuts split admits (noStart _) ?_ ?_
              · intro other shell' differs found
                rw [closed, if_neg differs] at found
                exact found
              · intro shell' _
                simp [Service.shutdown, admits, here, Progress.map, Progress.rest]
  | draining number =>
      cases drained : world.service.hasDrained number with
      | true =>
          refine settled.leaves split rfl ?_ (noStart _) ?_
          · simpa only [Service.shutdown, drained, if_true] using
              world.service.stopRefresh_leavesShells
          · intro other same
            cases same
            exact .inl drained
      | false =>
          refine settled.leaves split rfl ?_ (noStart _) ?_
          · simp only [Service.shutdown, drained]
            exact ⟨rfl, rfl⟩
          · intro other same
            cases same
            simp [Service.shutdown, drained, Progress.map, Progress.rest]
  | stoppingLoop number =>
      refine settled.leaves split rfl ?_ (noStart _) (by simp)
      simp only [Service.shutdown]
      split
      · exact world.service.stopPoints_leavesShells _
      · exact ⟨rfl, rfl⟩
  | stoppingPoint later =>
      exact settled.leaves split rfl (world.service.stopPoints_leavesShells later) (noStart _)
        (by simp)

theorem Settled.stopLoop {number : Option Nat} (settled : world.Settled)
    (split : world.tasks = left ++ .stoppingLoop number :: right)
    (ran : (Activity.stoppingLoop number).part world.service world.surroundings world.now =
      (after, progress)) :
    Settled { world with service := after, tasks := left ++ progress.rest ++ right } := by
  have kin := Activity.rest_kin world.service world.surroundings world.now ran
  refine settled.leaves split rfl ?_ ?_ (by simp)
  · simp only [Activity.part, Activity.run] at ran
    cases number with
    | none =>
        have dismissed : world.service.LeavesShells world.service.dismissLoop.1 := ⟨rfl, rfl⟩
        generalize world.service.dismissLoop = run at dismissed ran
        obtain ⟨service, loop⟩ := run
        cases loop <;> cases ran <;> exact dismissed
    | some number =>
        simp only at ran
        split at ran <;> cases ran <;> exact ⟨rfl, rfl⟩
  · intro phase own
    cases kin _ own

end Turns

/-- Whatever happens in order leaves every shell attended to. -/
theorem Settled.step (settled : world.Settled) (order : world.KeepsOrder happening)
    (step : Step world happening next) : next.Settled := by
  cases steering : happening.steers with
  | false => exact settled.meanwhile step steering
  | true =>
      cases step with
      | time later forward | source source | registry registry | joins => cases steering
      | overlooks left right number phase phase' cache journal split ran => cases steering
      | loopStarts service started =>
          have governs := world.service.startRefresh_governs service started
          refine ⟨settled.single, ?_, ?_⟩
          · intro phase mem begun
            exact governs.admission.trans (settled.starting phase mem begun)
          · intro number shell found
            rw [Service.shell?, governs.shells] at found
            rw [governs.admission]
            exact settled.shells number shell found
      | begins activity fresh =>
          have alone := order steering
          have steers : activity.steers = true := steering
          refine ⟨by simp [List.filter_append, alone, steers], ?_, ?_⟩
          · intro phase mem begun
            rw [List.mem_append, List.mem_singleton] at mem
            rcases mem with old | rfl
            · exact settled.starting phase old begun
            · cases phase <;> first | exact absurd rfl begun | cases fresh
          · intro number shell found
            refine (settled.shells number shell found).imp_right (Or.imp_right fun mem => ?_)
            exact List.mem_append_left _ mem
      | turns left right activity service progress split ran =>
          cases activity with
          | starting phase => exact settled.start split ran
          | stopping phase => exact settled.stop split ran
          | stoppingLoop number => exact settled.stopLoop split ran
          | _ => cases steering
      | drops left right activity split droppable =>
          obtain ⟨deeds, does⟩ := activity.dropFrom_calm world.service
          have subset : ∀ other ∈ left ++ right, other ∈ world.tasks := by
            intro other mem
            rw [split]
            exact List.mem_append.mpr ((List.mem_append.mp mem).imp_right (List.mem_cons_of_mem _))
          refine ⟨?_, ?_, ?_⟩
          · refine Nat.le_trans (List.Sublist.length_le ?_) settled.single
            rw [split]
            exact ((List.Sublist.refl left).append (List.sublist_cons_self _ _)).filter _
          · intro phase mem begun
            exact does.leavesAside.admission.trans (settled.starting phase (subset _ mem) begun)
          · intro number shell' found'
            obtain ⟨shell, found, alive⟩ := does.thins number shell' found'
            change (activity.dropFrom world.service).admission = _ ∨ _
            rw [does.leavesAside.admission]
            rcases settled.shells number shell found with admits | drained | waits
            · exact .inl admits
            · exact .inr (.inl (Nat.le_zero.mp (drained ▸ alive)))
            · rw [split, List.mem_append, List.mem_cons] at waits
              rcases waits with early | same | late
              · exact .inr (.inr (List.mem_append_left _ early))
              · subst same
                cases order
              · exact .inr (.inr (List.mem_append_right _ late))

theorem Orderly.settled {beginning : World} {options : ServiceOptions}
    {happenings : List Happening} (orderly : Orderly beginning happenings world)
    (new : beginning.IsNew options) : world.Settled := by
  induction orderly with
  | start =>
      obtain ⟨source, engine, points, handlers, startedAt, surroundings, rfl⟩ := new
      refine ⟨Nat.zero_le _, fun phase mem => ?_, fun number shell found => ?_⟩
      · cases mem
      · cases found
  | step earlier step order ih => exact ih.step order step

end World

end DecisionPoint
