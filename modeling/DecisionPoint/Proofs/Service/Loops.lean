import DecisionPoint.Proofs.Service.Starting

/-!
# Background loops

The loop of the cache runs until it is told to stop.  A loop that was told to stop has ended or
still has its place among the activities.
-/

set_option autoImplicit false

namespace DecisionPoint

namespace Service

/-- Which loops there are; some have their place among the activities already. -/
structure Loops (hosted : Nat → Prop) (service : Service) : Prop where
  loop : ∀ number, service.cache.loop = some number →
    number < service.nextNumber ∧ number ∉ service.stopping ∧
      (hosted number ∨ .loop number ∈ service.spawned)
  stopping : ∀ number ∈ service.stopping,
    number < service.nextNumber ∧
      (number ∈ service.ended ∨ hosted number ∨ .loop number ∈ service.spawned)

section Functions

variable {hosted : Nat → Prop} {service after : Service}

theorem Loops.still (loops : Loops hosted service) (loop : after.cache.loop = service.cache.loop)
    (stopping : after.stopping = service.stopping) (ended : service.ended ⊆ after.ended)
    (spawned : service.spawned ⊆ after.spawned) (numbers : service.nextNumber ≤ after.nextNumber) :
    Loops hosted after := by
  constructor
  · intro number running
    obtain ⟨given, untold, here⟩ := loops.loop number (loop ▸ running)
    exact ⟨Nat.lt_of_lt_of_le given numbers, stopping ▸ untold,
      here.imp_right fun mem => spawned mem⟩
  · intro number told
    obtain ⟨given, here⟩ := loops.stopping number (stopping ▸ told)
    exact ⟨Nat.lt_of_lt_of_le given numbers,
      here.imp (fun mem => ended mem) (Or.imp_right fun mem => spawned mem)⟩

theorem Rests.loops (rests : service.Rests after) (loops : Loops hosted service) :
    Loops hosted after :=
  loops.still rests.policy.loop rests.stopping (by rw [rests.ended]; exact List.Subset.refl _)
    (by rw [rests.spawned]; exact List.Subset.refl _) rests.numbers

theorem Attends.loops (attends : service.Attends after) (loops : Loops hosted service) :
    Loops hosted after :=
  loops.still (by rw [attends.cache]) attends.stopping
    (by rw [attends.ended]; exact List.Subset.refl _)
    (by rw [attends.spawned]; exact List.Subset.refl _) attends.numbers

theorem Does.loops {deeds : List Deed} (does : Does false service deeds after)
    (loops : Loops hosted service) : Loops hosted after := by
  generalize calm : false = governing at does
  induction does with
  | rests rests => exact rests.loops loops
  | followed _ _ ih ih' => exact ih' (ih loops calm) calm
  | governs governs => cases calm
  | opens opens => cases calm
  | closes admits found => cases calm
  | forgets shut => cases calm
  | turnsAway shut => exact loops
  | leaves found =>
      exact loops.still rfl rfl (List.Subset.refl _) (List.Subset.refl _) (Nat.le_refl _)
  | _ => exact loops.still rfl rfl (List.Subset.refl _) (List.Subset.refl _) (Nat.le_succ _)

theorem Loops.called (loops : Loops hosted service) (calls : List Call) :
    Loops hosted (service.called calls) :=
  loops.still rfl rfl (List.Subset.refl _) (List.Subset.refl _) (Nat.le_refl _)

theorem Loops.withCache (loops : Loops hosted service) {cache : PolicyCache} {journal : Journal}
    (steady : Steady (service.cache, service.journal) (cache, journal)) :
    Loops hosted (service.withCache cache journal) :=
  loops.still steady.loop rfl (List.Subset.refl _) (List.Subset.refl _) (Nat.le_refl _)

theorem Loops.dismissLoop (loops : Loops hosted service) :
    Loops hosted service.dismissLoop.1 := by
  constructor
  · intro number running
    cases running
  · intro number told
    rcases List.mem_append.mp told with before | now
    · exact loops.stopping number before
    · obtain ⟨given, -, here⟩ := loops.loop number (Option.mem_toList.mp now)
      exact ⟨given, .inr here⟩

theorem Loops.startRefresh (loops : Loops hosted service)
    (begins : service.startRefresh = .ok after) :
    Loops hosted after := by
  simp only [Service.startRefresh, freshNumber] at begins
  split at begins
  · cases begins
  · next cache ran =>
      cases begins
      have running : cache.loop = some service.nextNumber := by
        unfold PolicyCache.startRefresh at ran
        split at ran
        · cases ran
        · split at ran
          · cases ran
          · cases ran
            rfl
      constructor
      · intro number same
        rw [running] at same
        cases same
        refine ⟨Nat.lt_succ_self _, ?_, .inr (List.mem_append_right _ (List.mem_singleton_self _))⟩
        intro told
        exact Nat.lt_irrefl _ (loops.stopping _ told).1
      · intro number told
        obtain ⟨given, here⟩ := loops.stopping number told
        exact ⟨Nat.lt_succ_of_lt given,
          here.imp_right (Or.imp_right fun mem => List.mem_append_left _ mem)⟩

/-! ## Starting and stopping -/

theorem Loops.rollBack (loops : Loops hosted service) (fault : ServiceFault)
    (later : List Point) : Loops hosted (service.rollBack fault later).1 := by
  cases later with
  | nil => exact loops
  | cons point later => exact loops.called _

theorem Loops.stopPoints (loops : Loops hosted service) (later : List Point) :
    Loops hosted (service.stopPoints later).1 := by
  cases later with
  | nil => exact loops
  | cons point later => exact loops.called _

theorem Loops.openAdmission (loops : Loops hosted service) :
    Loops hosted service.openAdmission.1 := by
  have dismissed := loops.dismissLoop
  unfold Service.openAdmission
  split
  · exact loops.still rfl rfl (List.Subset.refl _) (List.subset_append_left _ _) (Nat.le_succ _)
  · generalize service.dismissLoop = run at dismissed ⊢
    split
    · exact dismissed
    · exact dismissed.rollBack _ _

theorem Loops.afterGate (loops : Loops hosted service) {run : PolicyCache.GateRun}
    (steady : Steady (service.cache, service.journal) (run.1, run.2.1)) :
    Loops hosted (service.afterGate run).1 := by
  obtain ⟨cache, journal, progress⟩ := run
  cases progress with
  | waiting gate => exact loops.withCache steady
  | done value => exact (loops.withCache steady).openAdmission

theorem Loops.startPoints (loops : Loops hosted service) (now : Nat) (started later : List Point) :
    Loops hosted (service.startPoints now started later).1 := by
  cases later with
  | cons point later => exact loops.called _
  | nil =>
      simp only [Service.startPoints]
      split
      · exact loops.rollBack _ _
      · next begun begins =>
          exact (loops.startRefresh begins).afterGate
            (begun.cache.gate_steady begun.journal now _ _)

theorem Loops.start (loops : Loops hosted service) (now : Nat) (phase : StartPhase) :
    Loops hosted (service.start now phase).1 := by
  cases phase with
  | fresh =>
      simp only [Service.start]
      split
      · exact loops
      · exact loops.startPoints now [] _
  | startingPoint started point later =>
      simp only [Service.start]
      split
      · exact loops.startPoints now _ later
      · exact loops.rollBack _ _
  | gating gate =>
      exact loops.afterGate (service.cache.resumeGate_steady service.journal now _ gate)
  | stoppingLoop number fault =>
      simp only [Service.start]
      split
      · exact loops.rollBack _ _
      · exact loops
  | stoppingPoint later fault => exact loops.rollBack _ _

theorem Loops.stopRefresh (loops : Loops hosted service) :
    Loops hosted service.stopRefresh.1 := by
  have dismissed := loops.dismissLoop
  unfold Service.stopRefresh
  generalize service.dismissLoop = run at dismissed ⊢
  split
  · exact dismissed
  · exact dismissed.stopPoints _

theorem Loops.shutdown (loops : Loops hosted service) (phase : StopPhase) :
    Loops hosted (service.shutdown phase).1 := by
  have shut (shells : List (Nat × Shell)) :
      Loops hosted { service with admission := none, shells := shells } :=
    loops.still rfl rfl (List.Subset.refl _) (List.Subset.refl _) (Nat.le_refl _)
  cases phase with
  | fresh =>
      simp only [Service.shutdown]
      split
      · exact loops.stopRefresh
      · split
        · exact (shut service.shells).stopRefresh
        · exact shut _
  | draining number =>
      simp only [Service.shutdown]
      split
      · exact loops.stopRefresh
      · exact loops
  | stoppingLoop number =>
      simp only [Service.shutdown]
      split
      · exact loops.stopPoints _
      · exact loops
  | stoppingPoint later => exact loops.stopPoints later

end Functions

end Service

end DecisionPoint
