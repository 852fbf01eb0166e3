import DecisionPoint.Proofs.Schedule.World
import DecisionPoint.Proofs.Service.Spares

/-!
# Turns and refreshes

Each turn of an activity is made of the events of refreshes, and an activity has the right to
refresh exactly while it waits for a fetch.  From step to step this makes the history of the cache.
-/

set_option autoImplicit false

namespace DecisionPoint

/-- A run that starts from a service drives its cache as far as it came. -/
def Service.DrivesTo {α φ : Type} (service : Service) (holds : Bool) (holds' : φ → Bool)
    (run : Service × Progress α φ) : Prop :=
  ∃ events, Drives holds (service.cache, service.journal) events (run.2.holds holds')
    (run.1.cache, run.1.journal)

theorem Progress.holds_map {α β φ ψ : Type} (f : α → β) (g : φ → ψ) (holds : ψ → Bool)
    (progress : Progress α φ) :
    (progress.map f g).holds holds = progress.holds fun phase => holds (g phase) := by
  cases progress <;> rfl

theorem Progress.holds_never {α φ : Type} (progress : Progress α φ) :
    progress.holds (fun _ => false) = false := by
  cases progress <;> rfl

namespace Service.DrivesTo

variable {α φ : Type} {service : Service}

theorem ofLeaves {holds : Bool} {holds' : φ → Bool} {run : Service × Progress α φ}
    (leaves : service.LeavesPolicy run.1) (same : run.2.holds holds' = holds) :
    service.DrivesTo holds holds' run := by
  refine ⟨[], ?_⟩
  rw [same]
  exact .rests leaves

theorem after {holds : Bool} {holds' : φ → Bool} {middle : Service}
    {run : Service × Progress α φ} (leaves : service.LeavesPolicy middle)
    (drives : middle.DrivesTo holds holds' run) : service.DrivesTo holds holds' run := by
  obtain ⟨events, drives⟩ := drives
  exact ⟨_, (Drives.rests leaves).followed drives⟩

end Service.DrivesTo

def StartPhase.isFetching : StartPhase → Bool
  | gating gate => gate.isFetching
  | _ => false

def ExchangePhase.isFetching : ExchangePhase → Bool
  | reloading _ => true
  | _ => false

namespace Service

variable (service : Service) (now : Nat)

theorem runLoop_drives (number : Nat) (phase : LoopPhase) :
    service.DrivesTo phase.isFetching LoopPhase.isFetching (service.runLoop now number phase) := by
  have loop := service.cache.runLoop_drives service.journal now (service.stopping.contains number)
    phase
  unfold runLoop
  generalize service.cache.runLoop service.journal now (service.stopping.contains number) phase =
    run at loop ⊢
  obtain ⟨cache, journal, progress⟩ := run
  cases progress with
  | waiting phase' => exact loop
  | done _ => exact loop

/-! ## Starting -/

theorem afterGate_drives (holds : Bool) (run : PolicyCache.GateRun)
    (drives : DrivesRun holds (service.cache, service.journal) GatePhase.isFetching run) :
    service.DrivesTo holds StartPhase.isFetching (service.afterGate run) := by
  obtain ⟨cache, journal, progress⟩ := run
  obtain ⟨events, drives⟩ := drives
  cases progress with
  | waiting gate => exact ⟨events, drives⟩
  | done ready =>
      have opens := (service.withCache cache journal).openAdmission_leaves
      have idle : (service.withCache cache journal).openAdmission.2.holds StartPhase.isFetching =
          false := by
        simp only [openAdmission, freshNumber]
        split
        · rfl
        · split
          · rfl
          · unfold rollBack
            split <;> rfl
      refine ⟨events ++ [], drives.followed ?_⟩
      simp only [afterGate, idle]
      exact .rests opens

theorem rollBack_holds (fault : ServiceFault) (points : List Point) :
    (service.rollBack fault points).2.holds StartPhase.isFetching = false := by
  cases points <;> rfl

theorem rollBack_drives (fault : ServiceFault) (points : List Point) :
    service.DrivesTo false StartPhase.isFetching (service.rollBack fault points) :=
  .ofLeaves (service.rollBack_spares fault points).leaves (service.rollBack_holds fault points)

theorem startPoints_drives (started later : List Point) :
    service.DrivesTo false StartPhase.isFetching (service.startPoints now started later) := by
  cases later with
  | cons point rest => exact .ofLeaves (.refl _) rfl
  | nil =>
      simp only [startPoints]
      split
      · exact service.rollBack_drives _ _
      · next service' begun =>
          refine .after (service.startRefresh_leaves service' begun) ?_
          apply service'.afterGate_drives
          exact service'.cache.gate_drives service'.journal now _ _

theorem start_drives (phase : StartPhase) :
    service.DrivesTo phase.isFetching StartPhase.isFetching (service.start now phase) := by
  cases phase with
  | fresh =>
      simp only [start]
      split
      · exact .ofLeaves (.refl _) rfl
      · exact service.startPoints_drives now [] _
  | startingPoint started point later =>
      simp only [start]
      split
      · exact service.startPoints_drives now _ later
      · exact service.rollBack_drives _ _
  | gating gate =>
      apply service.afterGate_drives
      exact service.cache.resumeGate_drives service.journal now _ gate
  | stoppingLoop number fault =>
      simp only [start]
      split
      · exact service.rollBack_drives _ _
      · exact .ofLeaves (.refl _) rfl
  | stoppingPoint later fault => exact service.rollBack_drives fault later

/-! ## Answers -/

theorem afterReload_drives (holds : Bool)
    (run : PolicyCache × Journal × Progress RefreshOutcome FetchWait)
    (drives : DrivesRun holds (service.cache, service.journal) (fun _ => true) run) :
    service.DrivesTo holds ExchangePhase.isFetching (service.afterReload run) := by
  obtain ⟨cache, journal, progress⟩ := run
  obtain ⟨events, drives⟩ := drives
  cases progress with
  | done outcome => exact ⟨events, drives⟩
  | waiting wait => exact ⟨events, drives⟩

variable (codec : Codec)

theorem awaitResult_holds (ticket : Ticket) (deadline : Nat) :
    (service.awaitResult now codec ticket deadline).2.holds ExchangePhase.isFetching = false := by
  unfold awaitResult
  split
  · rw [answerResult_response]
    rfl
  · split <;> rfl

theorem answerAuthorization_holds (options : ServerOptions) (request : HttpRequest) :
    (service.answerAuthorization now codec options request).2.holds ExchangePhase.isFetching =
      false := by
  simp only [answerAuthorization]
  split
  · rfl
  · split
    · rfl
    · split
      · simp only [answerBody, freshNumber]
        split
        · rfl
        · split
          · rfl
          · exact awaitResult_holds _ now codec _ _
      · rfl

theorem answer_drives (options : ServerOptions) (metrics : Bool) (listener : Listener)
    (request : HttpRequest) (phase : ExchangePhase) :
    service.DrivesTo phase.isFetching ExchangePhase.isFetching
      (service.answer now codec options metrics listener request phase) := by
  have reload := service.afterReload_drives false _
    (service.cache.refresh_drives service.journal now)
  cases phase with
  | fresh =>
      simp only [answer]
      split
      · exact .ofLeaves (service.answerAuthorization_spares now codec options request).leaves
          (service.answerAuthorization_holds now codec options request)
      · exact .ofLeaves (.refl _) rfl
      · exact .ofLeaves (.refl _) rfl
      · exact reload
      · exact reload
      · exact .ofLeaves (.refl _) rfl
      · exact .ofLeaves (.refl _) rfl
      · exact .ofLeaves (.refl _) rfl
  | reading deadline =>
      simp only [answer]
      split
      · exact .ofLeaves ⟨rfl, rfl, rfl, rfl, rfl⟩ rfl
      · exact .ofLeaves (.refl _) rfl
  | authorizing ticket deadline =>
      exact .ofLeaves (service.awaitResult_spares now codec ticket deadline).leaves
        (service.awaitResult_holds now codec ticket deadline)
  | reloading wait =>
      exact service.afterReload_drives true _
        (service.cache.resume_drives service.journal now wait)

end Service

namespace Activity

variable (service : Service) (surroundings : Surroundings) (now : Nat)

theorem afterRefresh_drives (holds : Bool) (giveUp : Option Nat)
    (run : PolicyCache × Journal × Progress RefreshOutcome FetchWait)
    (drives : DrivesRun holds (service.cache, service.journal) (fun _ => true) run) :
    service.DrivesTo holds Activity.isFetching (afterRefresh service now giveUp run) := by
  obtain ⟨cache, journal, progress⟩ := run
  obtain ⟨events, drives⟩ := drives
  cases progress with
  | done outcome => exact ⟨events, drives⟩
  | waiting wait =>
      by_cases elapsed : hasCome now giveUp = true
      · simp only [afterRefresh, if_pos elapsed]
        exact ⟨_, drives.followed .brokenOff⟩
      · simp only [afterRefresh, if_neg elapsed]
        exact ⟨events, drives⟩

theorem afterGate_drives (holds : Bool) (retries backoff : Nat) (run : PolicyCache.GateRun)
    (drives : DrivesRun holds (service.cache, service.journal) GatePhase.isFetching run) :
    service.DrivesTo holds Activity.isFetching (afterGate service retries backoff run) := by
  obtain ⟨cache, journal, progress⟩ := run
  obtain ⟨events, drives⟩ := drives
  cases progress with
  | done value => exact ⟨events, drives⟩
  | waiting gate => cases gate <;> exact ⟨events, drives⟩

theorem awaitTicket_spares (giveUp : Option Nat) (request : Request) (ticket : Ticket) :
    service.Spares (awaitTicket service now giveUp request ticket).1 ∧
      (awaitTicket service now giveUp request ticket).2.holds isFetching = false := by
  have collected := service.collect_spares ticket
  unfold awaitTicket
  split
  · next ran => exact ⟨.ofRun ran collected, rfl⟩
  · next ran =>
      split
      · exact ⟨(Service.Spares.ofRun ran collected).trans (Service.leave_spares _ _), rfl⟩
      · exact ⟨.ofRun ran collected, rfl⟩

theorem isFetching_loop (number : Nat) :
    (fun phase => (loop number phase).isFetching) = LoopPhase.isFetching := by
  funext phase
  cases phase <;> rfl

theorem isFetching_starting :
    (fun phase => (starting phase).isFetching) = StartPhase.isFetching := by
  funext phase
  cases phase with
  | gating gate => cases gate <;> rfl
  | _ => rfl

theorem isFetching_answering (listener : Listener) (request : HttpRequest) :
    (fun phase => (answering listener request phase).isFetching) = ExchangePhase.isFetching := by
  funext phase
  cases phase <;> rfl

/-- A part of a function of the service is the same part of the activity that it belongs to. -/
theorem drivesTo_map {α φ : Type} {service : Service} {holds : Bool} {holds' : φ → Bool}
    {run : Service × Progress α φ} (f : α → Answer) (g : φ → Activity)
    (same : (fun phase => (g phase).isFetching) = holds')
    (drives : service.DrivesTo holds holds' run) :
    service.DrivesTo holds isFetching (run.1, run.2.map f g) := by
  obtain ⟨events, drives⟩ := drives
  refine ⟨events, ?_⟩
  rw [Progress.holds_map, same]
  exact drives

/-- A turn is made of the events of refreshes. -/
theorem part_drives (activity : Activity) :
    service.DrivesTo activity.isFetching isFetching
      (activity.part service surroundings now) := by
  cases activity with
  | loop number phase =>
      have drives := service.runLoop_drives now number phase
      rw [← isFetching_loop number] at drives
      exact drivesTo_map _ _ rfl drives
  | worker id phase =>
      have spares := service.runWorker_spares now id phase
      refine .ofLeaves spares.leaves ?_
      exact (Progress.holds_map _ _ _ _).trans (Progress.holds_never _)
  | starting phase =>
      have drives := service.start_drives now phase
      rw [← isFetching_starting] at drives
      exact drivesTo_map _ _ rfl drives
  | stopping phase =>
      refine .ofLeaves (service.shutdown_leaves phase) ?_
      exact (Progress.holds_map _ _ _ _).trans (Progress.holds_never _)
  | refreshing giveUp wait =>
      cases wait with
      | none =>
          exact afterRefresh_drives service now false giveUp _
            (service.cache.refresh_drives service.journal now)
      | some wait =>
          exact afterRefresh_drives service now true giveUp _
            (service.cache.resume_drives service.journal now wait)
  | gating retries backoff gate =>
      cases gate with
      | none =>
          exact afterGate_drives service false retries backoff _
            (service.cache.gate_drives service.journal now backoff retries)
      | some phase =>
          have drives := afterGate_drives service phase.isFetching retries backoff _
            (service.cache.resumeGate_drives service.journal now backoff phase)
          cases phase <;> exact drives
  | stoppingLoop number =>
      cases number with
      | none =>
          have dismissed := service.dismissLoop_leaves
          simp only [part, run]
          generalize service.dismissLoop = result at dismissed ⊢
          obtain ⟨service', loop⟩ := result
          cases loop <;> exact .ofLeaves dismissed rfl
      | some number =>
          simp only [part, run]
          split <;> exact .ofLeaves (.refl _) rfl
  | evaluating request evaluation =>
      cases evaluation with
      | none =>
          have evaluated := service.evaluate_spares now request
          simp only [part, run]
          generalize service.evaluate now request = result at evaluated ⊢
          obtain ⟨service', progress⟩ := result
          cases progress <;> exact .ofLeaves evaluated.leaves rfl
      | some evaluation =>
          have resumed := service.resumeEvaluation_spares now evaluation
          simp only [part, run]
          generalize service.resumeEvaluation now evaluation = result at resumed ⊢
          obtain ⟨service', progress⟩ := result
          cases progress <;> exact .ofLeaves resumed.leaves rfl
  | authorizing giveUp request ticket =>
      cases ticket with
      | none =>
          have submitted := service.submit_spares request
          simp only [part, run]
          split
          · next ran => exact .ofLeaves (Service.Spares.ofRun ran submitted).leaves rfl
          · next ran =>
              have handedIn := (Service.Spares.ofRun ran submitted).leaves
              obtain ⟨spares, idle⟩ := awaitTicket_spares _ now giveUp request _
              exact .after handedIn (.ofLeaves spares.leaves idle)
      | some ticket =>
          obtain ⟨spares, idle⟩ := awaitTicket_spares service now giveUp request ticket
          exact .ofLeaves spares.leaves idle
  | answering listener request phase =>
      have drives := service.answer_drives now surroundings.codec surroundings.server
        surroundings.metrics listener request phase
      rw [← isFetching_answering listener request] at drives
      exact drivesTo_map _ _ rfl drives
  | pausing time =>
      simp only [part, run]
      split <;> exact .ofLeaves (.refl _) rfl

theorem spawned_isFetching (spawned : Spawned) : spawned.activity.isFetching = false := by
  cases spawned <;> rfl

theorem isFetching_of_isFresh (activity : Activity) (fresh : activity.isFresh = true) :
    activity.isFetching = false := by
  unfold isFresh at fresh
  split at fresh
  case h_10 => cases fresh
  all_goals rfl

/-- Whoever goes away gives the right to refresh back. -/
theorem dropFrom_drives (activity : Activity) :
    ∃ events, Drives activity.isFetching (service.cache, service.journal) events false
      ((activity.dropFrom service).cache, (activity.dropFrom service).journal) := by
  cases fetching : activity.isFetching with
  | true =>
      refine ⟨[.brokenOff], ?_⟩
      simp only [dropFrom, fetching, if_true]
      exact .brokenOff
  | false =>
      refine ⟨[], .rests ?_⟩
      simp only [dropFrom, fetching, Bool.false_eq_true, if_false]
      split
      · exact (service.leave_spares _).leaves
      · exact (service.leave_spares _).leaves
      · exact .refl _

end Activity

/-! ## Steps -/

namespace World

/-- The part of a world that refreshes are about. -/
def state (world : World) : CacheState :=
  (world.service.cache, world.service.journal)

def fetches (world : World) : Nat :=
  world.tasks.countP Activity.isFetching

theorem countP_split (left right : List Activity) (activity : Activity) :
    (left ++ activity :: right).countP Activity.isFetching =
      left.countP Activity.isFetching + right.countP Activity.isFetching +
        activity.isFetching.toNat := by
  rw [List.countP_append, List.countP_cons]
  cases activity.isFetching <;> simp [Nat.add_assoc]

theorem fetches_split {world : World} {left right : List Activity} {activity : Activity}
    (split : world.tasks = left ++ activity :: right) :
    world.fetches = left.countP Activity.isFetching + right.countP Activity.isFetching +
      activity.isFetching.toNat := by
  rw [fetches, split, countP_split]

theorem countP_spawned (spawned : List Spawned) :
    (spawned.map Spawned.activity).countP Activity.isFetching = 0 := by
  rw [List.countP_eq_zero]
  intro activity member
  obtain ⟨origin, -, same⟩ := List.mem_map.mp member
  rw [← same, Activity.spawned_isFetching]
  exact Bool.false_ne_true

theorem countP_rest (progress : Progress Answer Activity) :
    progress.rest.countP Activity.isFetching = (progress.holds Activity.isFetching).toNat := by
  cases progress with
  | done answer => rfl
  | waiting activity =>
      have single := countP_split [] [] activity
      simpa [Progress.rest, Progress.holds] using single

/-- What a step comes to: someone with or without the right to refresh does a piece of work, and the
number of those who wait for a fetch follows who has the right. -/
structure Moves (world next : World) (events : List RefreshEvent) (holds holds' : Bool) : Prop where
  drives : Drives holds world.state events holds' next.state
  mine : holds = true → 0 < world.fetches
  balance : next.fetches + holds.toNat = world.fetches + holds'.toNat

theorem Step.moves {world next : World} {happening : Happening}
    (step : Step world happening next) :
    ∃ events holds holds', Moves world next events holds holds' := by
  cases step with
  | time later forward => exact ⟨[], false, false, .rests (.refl _), nofun, rfl⟩
  | source source =>
      exact ⟨[], false, false, .rests ⟨rfl, rfl, rfl, rfl, rfl⟩, nofun, rfl⟩
  | registry registry => exact ⟨[], false, false, .rests (.refl _), nofun, rfl⟩
  | loopStarts service started =>
      exact ⟨[], false, false, .rests (world.service.startRefresh_leaves service started), nofun,
        rfl⟩
  | joins =>
      refine ⟨[], false, false, .rests (.refl _), nofun, ?_⟩
      rw [fetches, List.countP_append, countP_spawned]
      rfl
  | begins activity fresh =>
      refine ⟨[], false, false, .rests (.refl _), nofun, ?_⟩
      have added := countP_split world.tasks [] activity
      rw [activity.isFetching_of_isFresh fresh] at added
      simpa [fetches] using added
  | turns left right activity service progress split ran =>
      obtain ⟨events, drives⟩ :=
        activity.part_drives world.service world.surroundings world.now
      rw [ran] at drives
      have waiting := fetches_split split
      refine ⟨events, _, _, drives, ?_, ?_⟩
      · intro holds
        rw [waiting, holds]
        exact Nat.succ_pos _
      · rw [fetches, List.countP_append, List.countP_append, countP_rest, waiting]
        simp only
        omega
  | overlooks left right number phase phase' cache journal split ran =>
      obtain ⟨events, drives⟩ :=
        world.service.cache.runLoop_drives world.service.journal world.now false phase
      rw [ran] at drives
      have before : (Activity.loop number phase).isFetching = phase.isFetching :=
        congrFun (Activity.isFetching_loop number) phase
      have after : (Activity.loop number phase').isFetching = phase'.isFetching :=
        congrFun (Activity.isFetching_loop number) phase'
      have waiting := fetches_split split
      rw [before] at waiting
      refine ⟨events, _, _, drives, ?_, ?_⟩
      · intro holds
        rw [waiting, holds]
        exact Nat.succ_pos _
      · rw [fetches, countP_split, after, waiting]
        simp only [Progress.holds]
        omega
  | drops left right activity split droppable =>
      obtain ⟨events, drives⟩ := activity.dropFrom_drives world.service
      have waiting := fetches_split split
      refine ⟨events, _, _, drives, ?_, ?_⟩
      · intro holds
        rw [waiting, holds]
        exact Nat.succ_pos _
      · rw [fetches, List.countP_append, waiting]
        simp

end World

end DecisionPoint
