import DecisionPoint.Proofs.Schedule.Launch

/-!
# The stages of a shutdown

A shutdown of a running service closes its shell, waits until that has drained, tells the loop to
stop, and stops the points, last first.
-/

set_option autoImplicit false

namespace DecisionPoint

def hasWaited : Progress Unit StopPhase → Bool
  | .waiting .fresh | .waiting (.draining _) => false
  | _ => true

/-- How far a shutdown is from its end, at most. -/
def StopPhase.distance (points : Nat) : StopPhase → Nat
  | .stoppingPoint later => later.length + 1
  | .stoppingLoop _ => points + 2
  | .draining _ => points + 3
  | .fresh => points + 4

namespace Service

/-- Where a shutdown stands that has found the service with a shell, its loop and its points. -/
inductive StopStage (origin : Service) (number : Nat) (service : Service) :
    Progress Unit StopPhase → Prop where
  | fresh (follows : Follows origin service []) (admits : service.admission = some number)
      (loop : service.cache.loop = origin.cache.loop) :
      StopStage origin number service (.waiting .fresh)
  | draining (follows : Follows origin service []) (shut : service.admission = none)
      (loop : service.cache.loop = origin.cache.loop) :
      StopStage origin number service (.waiting (.draining number))
  | stoppingLoop {loop : Nat} (follows : Follows origin service [])
      (shut : service.admission = none) (ran : origin.cache.loop = some loop)
      (noLoop : service.cache.loop = none) (told : loop ∈ service.stopping) :
      StopStage origin number service (.waiting (.stoppingLoop loop))
  | stoppingPoint {stopped later : List Point}
      (order : stopped ++ later = origin.pipeline.points.reverse)
      (follows : Follows origin service (stopped.map .stop)) (shut : service.admission = none)
      (noLoop : service.cache.loop = none) :
      StopStage origin number service (.waiting (.stoppingPoint later))
  | done (follows : Follows origin service (origin.pipeline.points.reverse.map .stop))
      (shut : service.admission = none) (noLoop : service.cache.loop = none) :
      StopStage origin number service (.done ())

section Stages

variable {origin service after : Service} {number : Nat} {phase : StopPhase}
  {progress : Progress Unit StopPhase}

theorem StopStage.aside (stage : StopStage origin number service progress)
    (aside : service.Aside after) : StopStage origin number after progress := by
  cases stage with
  | fresh follows admits loop =>
      exact .fresh (follows.aside aside) (aside.admission.trans admits) (aside.loop.trans loop)
  | draining follows shut loop =>
      exact .draining (follows.aside aside) (aside.admission.trans shut) (aside.loop.trans loop)
  | stoppingLoop follows shut ran noLoop told =>
      exact .stoppingLoop (follows.aside aside) (aside.admission.trans shut) ran
        (aside.loop.trans noLoop) (aside.stopping ▸ told)
  | stoppingPoint order follows shut noLoop =>
      exact .stoppingPoint order (follows.aside aside) (aside.admission.trans shut)
        (aside.loop.trans noLoop)
  | done follows shut noLoop =>
      exact .done (follows.aside aside) (aside.admission.trans shut) (aside.loop.trans noLoop)

theorem StopStage.shut (stage : StopStage origin number service progress)
    (begun : progress ≠ .waiting .fresh) : service.admission = none := by
  cases stage with
  | fresh follows admits loop => exact absurd rfl begun
  | draining follows shut loop => exact shut
  | stoppingLoop follows shut ran noLoop told => exact shut
  | stoppingPoint order follows shut noLoop => exact shut
  | done follows shut noLoop => exact shut

theorem stopPoints_stage {stopped later : List Point}
    (order : stopped ++ later = origin.pipeline.points.reverse)
    (follows : Follows origin service (stopped.map .stop)) (shut : service.admission = none)
    (noLoop : service.cache.loop = none) :
    StopStage origin number (service.stopPoints later).1 (service.stopPoints later).2 := by
  obtain ⟨options, pipeline, cacheOptions, calls⟩ := follows
  cases later with
  | nil =>
      rw [List.append_nil] at order
      exact .done ⟨options, pipeline, cacheOptions, order ▸ calls⟩ shut noLoop
  | cons point later =>
      have order' : stopped ++ [point] ++ later = origin.pipeline.points.reverse := by
        rw [List.append_assoc]
        exact order
      refine .stoppingPoint order' ⟨options, pipeline, cacheOptions, ?_⟩ shut noLoop
      have made : governingCalls [Call.stop point] = [.stop point] := rfl
      rw [stopPoints, called, governingCalls_append, calls, made, List.map_append,
        List.append_assoc]
      rfl

theorem stopRefresh_stage (follows : Follows origin service []) (shut : service.admission = none)
    (loop : service.cache.loop = origin.cache.loop) :
    StopStage origin number service.stopRefresh.1 service.stopRefresh.2 := by
  obtain ⟨options, pipeline, cacheOptions, calls⟩ := follows
  unfold stopRefresh dismissLoop PolicyCache.dismissLoop
  cases ran : service.cache.loop with
  | some number =>
      refine .stoppingLoop ⟨options, pipeline, cacheOptions, calls⟩ shut (loop ▸ ran) rfl ?_
      exact List.mem_append_right _ (List.mem_singleton_self _)
  | none =>
      have order : [] ++ service.pipeline.points.reverse = origin.pipeline.points.reverse := by
        rw [pipeline, List.nil_append]
      exact stopPoints_stage order ⟨options, pipeline, cacheOptions, calls⟩ shut rfl

theorem StopStage.shutdown (stage : StopStage origin number service (.waiting phase))
    (here : phase = .fresh → (service.shell? number).isSome = true) :
    StopStage origin number (service.shutdown phase).1 (service.shutdown phase).2 := by
  generalize reached : Progress.waiting phase = progress at stage
  cases stage with
  | fresh follows admits loop =>
      cases reached
      obtain ⟨shell, found⟩ := Option.isSome_iff_exists.mp (here rfl)
      simp only [Service.shutdown, admits, found]
      exact .draining ⟨follows.options, follows.pipeline, follows.cacheOptions, follows.calls⟩ rfl
        loop
  | draining follows shut loop =>
      cases reached
      simp only [Service.shutdown]
      split
      · exact stopRefresh_stage follows shut loop
      · exact .draining follows shut loop
  | @stoppingLoop number' follows shut ran noLoop told =>
      cases reached
      simp only [Service.shutdown]
      split
      · have order : [] ++ service.pipeline.points.reverse = origin.pipeline.points.reverse := by
          rw [follows.pipeline, List.nil_append]
        exact stopPoints_stage order follows shut noLoop
      · exact .stoppingLoop follows shut ran noLoop told
  | stoppingPoint order follows shut noLoop =>
      cases reached
      exact stopPoints_stage order follows shut noLoop
  | done follows shut noLoop => cases reached

theorem StopStage.drains (stage : StopStage origin number service (.waiting phase))
    (here : phase = .fresh → (service.shell? number).isSome = true)
    (before : hasWaited (.waiting phase) = false)
    (after : hasWaited (service.shutdown phase).2 = true) : service.hasDrained number = true := by
  generalize reached : Progress.waiting phase = progress at stage
  cases stage with
  | fresh follows admits loop =>
      cases reached
      obtain ⟨shell, found⟩ := Option.isSome_iff_exists.mp (here rfl)
      simp only [Service.shutdown, admits, found] at after
      cases after
  | draining follows shut loop =>
      cases reached
      by_contra left
      simp only [Service.shutdown, if_neg left] at after
      cases after
  | stoppingLoop follows shut ran noLoop told | stoppingPoint order follows shut noLoop =>
      cases reached
      cases before
  | done follows shut noLoop => cases reached

/-! ## A shutdown comes to its end -/

theorem stopPoints_distance {points : List Point} (all : Nat)
    (waits : (service.stopPoints points).2 = .waiting phase) :
    phase.distance all = points.length := by
  cases points with
  | nil => cases waits
  | cons point later =>
      cases waits
      rfl

theorem stopRefresh_distance (waits : service.stopRefresh.2 = .waiting phase) :
    phase.distance service.pipeline.points.length ≤ service.pipeline.points.length + 2 := by
  unfold stopRefresh at waits
  split at waits
  · cases waits
    exact Nat.le_refl _
  · next after ran =>
      have same : after.pipeline = service.pipeline :=
        congrArg (fun run => run.1.pipeline) ran.symm
      rw [stopPoints_distance _ waits, same, List.length_reverse]
      exact Nat.le_add_right _ 2

/-- The turn of a shutdown that can go on brings it nearer to its end. -/
theorem StopStage.nearer (stage : StopStage origin number service (.waiting phase))
    (here : phase = .fresh → (service.shell? number).isSome = true)
    (goesOn : service.stopCanGoOn phase = true) {later : StopPhase}
    (waits : (service.shutdown phase).2 = .waiting later) :
    later.distance origin.pipeline.points.length <
      phase.distance origin.pipeline.points.length := by
  generalize reached : Progress.waiting phase = progress at stage
  cases stage with
  | fresh follows admits loop =>
      cases reached
      obtain ⟨shell, found⟩ := Option.isSome_iff_exists.mp (here rfl)
      simp only [Service.shutdown, admits, found] at waits
      cases waits
      exact Nat.lt_succ_self _
  | draining follows shut loop =>
      cases reached
      have drained : service.hasDrained number = true := goesOn
      simp only [Service.shutdown, drained, if_true] at waits
      have near := stopRefresh_distance waits
      rw [follows.pipeline] at near
      exact Nat.lt_succ_of_le near
  | @stoppingLoop loop follows shut ran noLoop told =>
      cases reached
      have ended : service.hasEnded loop = true := goesOn
      simp only [Service.shutdown, ended, if_true] at waits
      rw [stopPoints_distance _ waits, follows.pipeline, List.length_reverse]
      exact Nat.lt_add_of_pos_right (by decide)
  | @stoppingPoint stopped rest order follows shut noLoop =>
      cases reached
      rw [stopPoints_distance _ waits]
      exact Nat.lt_succ_self _
  | done follows shut noLoop => cases reached

end Stages

end Service

end DecisionPoint
