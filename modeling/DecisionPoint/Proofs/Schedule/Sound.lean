import DecisionPoint.Proofs.Schedule.World
import DecisionPoint.Schedule.Clock

/-!
# One clock is one order

The schedule runs activities in one fixed order.  Whatever it comes to is a world that activities
can come to in some order, up to the order in which a world lists them.
-/

set_option autoImplicit false

namespace DecisionPoint

namespace World

/-! ## Worlds that list their activities differently -/

/-- The worlds differ at most in the order in which they list their activities. -/
structure Like (world other : World) : Prop where
  now : world.now = other.now
  service : world.service = other.service
  surroundings : world.surroundings = other.surroundings
  tasks : world.tasks.Perm other.tasks

theorem Like.refl (world : World) : world.Like world := ⟨rfl, rfl, rfl, .refl _⟩

theorem Like.symm {world other : World} (like : world.Like other) : other.Like world :=
  ⟨like.now.symm, like.service.symm, like.surroundings.symm, like.tasks.symm⟩

theorem Like.trans {a b c : World} (first : a.Like b) (second : b.Like c) : a.Like c :=
  ⟨first.now.trans second.now, first.service.trans second.service,
    first.surroundings.trans second.surroundings, first.tasks.trans second.tasks⟩

theorem perm_extra_first (left extra right : List Activity) :
    (left ++ extra ++ right).Perm (extra ++ (left ++ right)) := by
  rw [← List.append_assoc]
  exact List.perm_append_comm.append_right right

/-- An activity can be replaced in any order of the others. -/
theorem exists_split {tasks others left right : List Activity} {activity : Activity}
    (perm : tasks.Perm others) (split : tasks = left ++ activity :: right) :
    ∃ left' right', others = left' ++ activity :: right' ∧
      ∀ extra, (left ++ extra ++ right).Perm (left' ++ extra ++ right') := by
  have member : activity ∈ others := perm.subset (by simp [split])
  obtain ⟨left', right', split'⟩ := List.append_of_mem member
  refine ⟨left', right', split', ?_⟩
  rw [split, split'] at perm
  have rest : (left ++ right).Perm (left' ++ right') :=
    ((List.perm_middle.symm.trans perm).trans List.perm_middle).cons_inv
  intro extra
  have first := perm_extra_first left extra right
  have last := (perm_extra_first left' extra right').symm
  exact first.trans ((rest.append_left extra).trans last)

/-- Steps do not depend on the order in which activities are listed. -/
theorem Step.like {world next other : World} {happening : Happening}
    (step : Step world happening next) (like : world.Like other) :
    ∃ next', Step other happening next' ∧ next.Like next' := by
  obtain ⟨now, service, surroundings, tasks⟩ := world
  obtain ⟨now', service', surroundings', others⟩ := other
  obtain ⟨rfl, rfl, rfl, perm⟩ := like
  cases step with
  | time later forward => exact ⟨_, .time later forward, rfl, rfl, rfl, perm⟩
  | source source => exact ⟨_, .source source, rfl, rfl, rfl, perm⟩
  | registry registry => exact ⟨_, .registry registry, rfl, rfl, rfl, perm⟩
  | loopStarts service' started => exact ⟨_, .loopStarts service' started, rfl, rfl, rfl, perm⟩
  | joins => exact ⟨_, .joins, rfl, rfl, rfl, perm.append_right _⟩
  | begins activity fresh => exact ⟨_, .begins activity fresh, rfl, rfl, rfl, perm.append_right _⟩
  | turns left right activity service' progress split ran =>
      obtain ⟨left', right', split', same⟩ := exists_split perm split
      exact ⟨_, .turns left' right' activity service' progress split' ran, rfl, rfl, rfl,
        same progress.rest⟩
  | overlooks left right number phase phase' cache journal split ran =>
      obtain ⟨left', right', split', same⟩ := exists_split perm split
      refine ⟨_, .overlooks left' right' number phase phase' cache journal split' ran, rfl, rfl,
        rfl, ?_⟩
      simpa using same [.loop number phase']
  | drops left right activity split droppable =>
      obtain ⟨left', right', split', same⟩ := exists_split perm split
      refine ⟨_, .drops left' right' activity split' droppable, rfl, rfl, rfl, ?_⟩
      simpa using same []

theorem Run.like {world next other : World} {happenings : List Happening}
    (run : Run world happenings next) (like : world.Like other) :
    ∃ next', Run other happenings next' ∧ next.Like next' := by
  induction run with
  | start => exact ⟨other, .start, like⟩
  | step _ step ih =>
      obtain ⟨middle, earlier, like'⟩ := ih
      obtain ⟨next', step', like''⟩ := step.like like'
      exact ⟨next', .step earlier step', like''⟩

/-- A world comes to another one, up to the order of its activities. -/
def Reaches (world other : World) : Prop :=
  ∃ happenings next, Run world happenings next ∧ next.Like other

theorem Reaches.ofLike {world other : World} (like : world.Like other) : world.Reaches other :=
  ⟨[], world, .start, like⟩

theorem Reaches.ofStep {world next : World} {happening : Happening}
    (step : Step world happening next) : world.Reaches next :=
  ⟨_, next, .step .start step, .refl next⟩

theorem Reaches.trans {a b c : World} (first : a.Reaches b) (second : b.Reaches c) :
    a.Reaches c := by
  obtain ⟨earlier, middle, run, like⟩ := first
  obtain ⟨later, last, run', like'⟩ := second
  obtain ⟨last', run'', like''⟩ := run'.like like.symm
  exact ⟨_, last', run.trans run'', like''.symm.trans like'⟩

/-! ## Whole activities -/

theorem reaches_turn (world : World) (activity : Activity) (others : List Activity)
    (tasks : world.tasks = activity :: others) :
    world.Reaches
      { world with
        service := (activity.part world.service world.surroundings world.now).1
        tasks :=
          (activity.part world.service world.surroundings world.now).2.rest ++ others } :=
  .ofStep (.turns [] others activity _ _ tasks rfl)

theorem runStart_reaches (world : World) (parts : Nat) (phase : StartPhase)
    (others : List Activity) (tasks : world.tasks = .starting phase :: others) :
    world.Reaches
      { world with
        service := (Activity.runStart world.service world.now parts phase).1
        tasks :=
          ((Activity.runStart world.service world.now parts phase).2.map Answer.started
            Activity.starting).rest ++ others } := by
  induction parts generalizing world phase with
  | zero =>
      refine .ofLike ⟨rfl, rfl, rfl, ?_⟩
      rw [tasks]
      exact .refl _
  | succ parts ih =>
      have turn := world.reaches_turn (.starting phase) others tasks
      simp only [Activity.part] at turn
      unfold Activity.runStart
      generalize world.service.start world.now phase = run at turn ⊢
      obtain ⟨service, progress⟩ := run
      cases progress with
      | done result => exact turn
      | waiting phase' =>
          by_cases goesOn : service.startCanGoOn world.now phase' = true
          · simp only [if_pos goesOn]
            exact turn.trans (ih { world with service := service, tasks := _ } phase' rfl)
          · simp only [if_neg goesOn]
            exact turn

theorem runStop_reaches (world : World) (parts : Nat) (phase : StopPhase)
    (others : List Activity) (tasks : world.tasks = .stopping phase :: others) :
    world.Reaches
      { world with
        service := (Activity.runStop world.service parts phase).1
        tasks :=
          ((Activity.runStop world.service parts phase).2.map (fun _ => Answer.stopped)
            Activity.stopping).rest ++ others } := by
  induction parts generalizing world phase with
  | zero =>
      refine .ofLike ⟨rfl, rfl, rfl, ?_⟩
      rw [tasks]
      exact .refl _
  | succ parts ih =>
      have turn := world.reaches_turn (.stopping phase) others tasks
      simp only [Activity.part] at turn
      unfold Activity.runStop
      generalize world.service.shutdown phase = run at turn ⊢
      obtain ⟨service, progress⟩ := run
      cases progress with
      | done _ => exact turn
      | waiting phase' =>
          by_cases goesOn : service.stopCanGoOn phase' = true
          · simp only [if_pos goesOn]
            exact turn.trans (ih { world with service := service, tasks := _ } phase' rfl)
          · simp only [if_neg goesOn]
            exact turn

theorem run_reaches (world : World) (activity : Activity) (others : List Activity)
    (tasks : world.tasks = activity :: others) :
    world.Reaches
      { world with
        service := (activity.run world.service world.surroundings world.now).1
        tasks :=
          (activity.run world.service world.surroundings world.now).2.rest ++ others } := by
  cases activity with
  | starting phase => exact world.runStart_reaches (Activity.parts world.service) phase others tasks
  | stopping phase => exact world.runStop_reaches (Activity.parts world.service) phase others tasks
  | loop number phase => exact world.reaches_turn _ others tasks
  | worker id phase => exact world.reaches_turn _ others tasks
  | refreshing giveUp wait => exact world.reaches_turn _ others tasks
  | gating retries backoff gate => exact world.reaches_turn _ others tasks
  | stoppingLoop number => exact world.reaches_turn _ others tasks
  | evaluating request evaluation => exact world.reaches_turn _ others tasks
  | authorizing giveUp request ticket => exact world.reaches_turn _ others tasks
  | answering listener request phase => exact world.reaches_turn _ others tasks
  | pausing time => exact world.reaches_turn _ others tasks

end World

/-! ## The schedule -/

namespace Schedule

/-- A schedule as a world, with the activities of callers beside its own. -/
def world (schedule : Schedule) (callers : List Activity) : World :=
  ⟨schedule.now, schedule.service, schedule.surroundings,
    callers ++ (schedule.ready ++ schedule.waiting).map Prod.snd⟩

theorem promote_like (schedule : Schedule) (callers : List Activity) :
    (schedule.world callers).Like (schedule.promote.world callers) := by
  refine ⟨rfl, rfl, rfl, .append_left callers (.map Prod.snd ?_)⟩
  simp only [promote, List.partition_eq_filter_filter, List.append_assoc]
  exact .append_left _ (List.filter_append_perm _ schedule.waiting).symm

theorem addAll_like (schedule : Schedule) (spawned : List Spawned) (callers : List Activity) :
    World.Like
      ⟨schedule.now, schedule.service, schedule.surroundings,
        callers ++ (schedule.ready ++ schedule.waiting).map Prod.snd ++
          spawned.map Spawned.activity⟩
      ((spawned.foldl (fun schedule spawned => (schedule.add spawned.activity).2)
        schedule).world callers) := by
  induction spawned generalizing schedule with
  | nil =>
      refine ⟨rfl, rfl, rfl, ?_⟩
      simp only [List.map_nil, List.append_nil, List.foldl_nil]
      exact .refl _
  | cons first rest ih =>
      refine .trans ?_ (ih (schedule.add first.activity).2)
      refine ⟨rfl, rfl, rfl, ?_⟩
      simp only [add, List.map_append, List.map_cons, List.append_assoc, List.cons_append,
        List.nil_append]
      exact .append_left _ (.append_left _ List.perm_middle)

/-- What is set going gets a place at the end. -/
theorem absorb_like (schedule : Schedule) (service : Service) (callers : List Activity) :
    World.Like
      ⟨schedule.now, { service with spawned := [] }, schedule.surroundings,
        callers ++ (schedule.ready ++ schedule.waiting).map Prod.snd ++
          service.spawned.map Spawned.activity⟩
      ((schedule.absorb service).world callers) :=
  addAll_like { schedule with service := { service with spawned := [] } } service.spawned callers

theorem absorb_reaches (schedule : Schedule) (activity : Activity) (callers : List Activity)
    (service : Service) (progress : Progress Answer Activity)
    (ran : activity.run schedule.service schedule.surroundings schedule.now =
      (service, progress)) :
    (schedule.world (activity :: callers)).Reaches
      ((schedule.absorb service).world (progress.rest ++ callers)) := by
  have turns := (schedule.world (activity :: callers)).run_reaches activity
    (callers ++ (schedule.ready ++ schedule.waiting).map Prod.snd) rfl
  simp only [world, ran] at turns
  have absorbed := schedule.absorb_like service (progress.rest ++ callers)
  rw [List.append_assoc progress.rest] at absorbed
  exact turns.trans (.trans (.ofStep .joins) (.ofLike absorbed))

theorem runTask_reaches (schedule : Schedule) (number : Nat) (activity : Activity)
    (callers : List Activity) :
    (schedule.world (activity :: callers)).Reaches
      ((schedule.runTask number activity).world callers) := by
  unfold runTask
  split
  · next service answer ran =>
      have absorbed := schedule.absorb_reaches activity callers service _ ran
      refine absorbed.trans (.ofLike (.trans ?_ (promote_like _ callers)))
      cases answer <;> exact .refl _
  · next service activity' ran =>
      have absorbed := schedule.absorb_reaches activity callers service _ ran
      refine absorbed.trans (.ofLike (.trans ?_ (promote_like _ callers)))
      refine ⟨rfl, rfl, rfl, ?_⟩
      simp only [world, Progress.rest, List.map_append, List.map_cons, List.map_nil,
        ← List.append_assoc]
      exact (List.perm_append_singleton activity' _).symm

theorem ready_like {schedule : Schedule} {number : Nat} {activity : Activity}
    {rest : List (Nat × Activity)} (first : schedule.ready = (number, activity) :: rest)
    (callers : List Activity) :
    (schedule.world callers).Like
      ({ schedule with ready := rest }.world (activity :: callers)) := by
  refine ⟨rfl, rfl, rfl, ?_⟩
  simp only [world, first, List.cons_append, List.map_cons]
  exact List.perm_middle

theorem settle_reaches (schedule : Schedule) (fuel : Nat) (callers : List Activity) :
    (schedule.world callers).Reaches ((schedule.settle fuel).world callers) := by
  induction fuel generalizing schedule with
  | zero => exact .ofLike (.refl _)
  | succ fuel ih =>
      unfold settle
      split
      · exact .ofLike (.refl _)
      · next number activity rest first =>
          have ran := runTask_reaches { schedule with ready := rest } number activity callers
          exact .trans (.ofLike (ready_like first callers)) (ran.trans (ih _))

theorem moveTo_reaches (schedule : Schedule) (time : Nat) (callers : List Activity) :
    (schedule.world callers).Reaches ((schedule.moveTo time).world callers) := by
  have moves : World.Step (schedule.world callers) .time
      ({ schedule with now := max schedule.now time }.world callers) :=
    .time _ (Nat.le_max_left _ _)
  exact .trans (.ofStep moves) (.ofLike (promote_like _ callers))

theorem awaitAny_reaches (schedule schedule' : Schedule) (caller : Activity)
    (callers : List Activity) (awaited : schedule.awaitAny caller = some schedule') :
    (schedule.world callers).Reaches (schedule'.world callers) := by
  unfold awaitAny at awaited
  split at awaited
  · cases awaited
    exact .ofLike (.refl _)
  · obtain ⟨time, -, moved⟩ := Option.map_eq_some_iff.mp awaited
    rw [← moved]
    exact schedule.moveTo_reaches time callers

/-- The activity of a caller goes on among the others; it is there still if it has not ended. -/
theorem attend_reaches (schedule : Schedule) (caller : Activity) (fuel : Nat)
    (callers : List Activity) :
    ∃ left, (schedule.world (caller :: callers)).Reaches
      ((schedule.attend caller fuel).1.world left) := by
  induction fuel generalizing schedule caller with
  | zero => exact ⟨_, .ofLike (.refl _)⟩
  | succ fuel ih =>
      unfold attend
      split
      · next number activity rest first =>
          have ran := runTask_reaches { schedule with ready := rest } number activity
            (caller :: callers)
          obtain ⟨left, later⟩ :=
            ih ({ schedule with ready := rest }.runTask number activity) caller
          exact ⟨left, .trans (.ofLike (ready_like first _)) (ran.trans later)⟩
      · split
        · exact ⟨_, .ofLike (.refl _)⟩
        · next schedule' awaited =>
            have reached := awaitAny_reaches schedule schedule' caller (caller :: callers) awaited
            split
            · split
              · next service answer ran =>
                  have absorbed := schedule'.absorb_reaches caller callers service _ ran
                  exact ⟨_, reached.trans (absorbed.trans (.ofLike (promote_like _ _)))⟩
              · next service caller' ran =>
                  have absorbed := schedule'.absorb_reaches caller callers service _ ran
                  obtain ⟨left, later⟩ := ih (schedule'.absorb service).promote caller'
                  exact ⟨left, reached.trans (absorbed.trans
                    (.trans (.ofLike (promote_like _ _)) later))⟩
            · obtain ⟨left, later⟩ := ih schedule' caller
              exact ⟨left, reached.trans later⟩

theorem begins_reaches (schedule : Schedule) (caller : Activity) (callers : List Activity)
    (fresh : caller.isFresh = true) :
    (schedule.world callers).Reaches (schedule.world (caller :: callers)) := by
  refine .trans (.ofStep (.begins caller fresh)) (.ofLike ⟨rfl, rfl, rfl, ?_⟩)
  exact List.perm_append_singleton caller _

/-- What a schedule performs for a caller can happen in a world. -/
theorem perform_reaches (schedule : Schedule) (caller : Activity) (fuel : Nat)
    (callers : List Activity) (fresh : caller.isFresh = true) :
    ∃ left, (schedule.world callers).Reaches ((schedule.perform caller fuel).1.world left) := by
  have begun := schedule.begins_reaches caller callers fresh
  unfold perform
  split
  next schedule' answer performed =>
    split at performed
    · next service result ran =>
        cases performed
        have absorbed := schedule.absorb_reaches caller callers service _ ran
        refine ⟨callers, begun.trans (absorbed.trans (.trans (.ofLike (promote_like _ _)) ?_))⟩
        exact settle_reaches _ fuel callers
    · next service caller' ran =>
        have absorbed := schedule.absorb_reaches caller callers service _ ran
        obtain ⟨left, later⟩ := attend_reaches (schedule.absorb service).promote caller' fuel
          callers
        rw [performed] at later
        refine ⟨left, begun.trans (absorbed.trans (.trans (.ofLike (promote_like _ _)) ?_))⟩
        exact later.trans (schedule'.settle_reaches fuel left)

/-- What a schedule sets going beside its caller can happen in a world. -/
theorem launch_reaches (schedule : Schedule) (activity : Activity) (fuel : Nat)
    (callers : List Activity) (fresh : activity.isFresh = true) :
    (schedule.world callers).Reaches ((schedule.launch activity fuel).2.world callers) := by
  have begun := schedule.begins_reaches activity callers fresh
  have added : (schedule.world (activity :: callers)).Like
      ((schedule.add activity).2.world callers) := by
    refine ⟨rfl, rfl, rfl, ?_⟩
    simp only [world, add, List.map_append, List.map_cons, List.append_assoc, List.cons_append,
      List.nil_append]
    rw [← List.append_assoc, ← List.append_assoc]
    exact List.perm_middle.symm
  exact begun.trans (.trans (.ofLike added) ((schedule.add activity).2.settle_reaches fuel callers))

end Schedule

end DecisionPoint
