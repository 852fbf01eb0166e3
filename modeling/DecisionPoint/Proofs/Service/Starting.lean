import DecisionPoint.Proofs.Evaluation.Serving
import DecisionPoint.Proofs.Policy.Attempts

/-!
# The stages of a start

`StartTurn` says what the turn of a start consists of.  A start goes from stage to stage: it starts
the points in order, then the loop, waits at the gate and opens admission, or it takes back what it
has done, last first.
-/

set_option autoImplicit false

namespace DecisionPoint

def StartPhase.distance (points retries : Nat) : StartPhase → Nat
  | .stoppingPoint later _ => later.length + 1
  | .stoppingLoop _ _ => points + 2
  | .gating gate => points + 3 + gate.distance
  | .startingPoint _ _ later => points + 2 * retries + 4 + later.length
  | .fresh => 2 * points + 2 * retries + 5

namespace Service

open PolicyCache (Tries Resumes Tells)

/-! ## Turns -/

/-- The points that are left are started, and then the loop and the gate. -/
inductive StartsPoints (now : Nat) (service : Service) (started : List Point) :
    List Point → Starting → Nat → Prop where
  | starts {point : Point} {later : List Point} :
      StartsPoints now service started (point :: later)
        (service.called [.start point], .waiting (.startingPoint started point later)) 0
  | refuses {fault : ServiceFault} (refused : service.startRefresh = .error fault) :
      StartsPoints now service started [] (service.rollBack fault service.pipeline.points.reverse) 0
  | gates {begun : Service} {made : Nat} (begins : service.startRefresh = .ok begun)
      (tries : Tries now begun.backoff none begun.cache begun.journal
        begun.cache.options.startupRetries.toNat
        (begun.cache.gate begun.journal now begun.backoff
          begun.cache.options.startupRetries.toNat) made) :
      StartsPoints now service started []
        (begun.afterGate (begun.cache.gate begun.journal now begun.backoff
          begun.cache.options.startupRetries.toNat)) made

/-- The turn of a start, with the attempts that the gate makes in it. -/
inductive StartTurn (now : Nat) (service : Service) : StartPhase → Starting → Nat → Prop where
  | refuses (running : service.isRunning = true) :
      StartTurn now service .fresh
        (service, .done (.error (.alreadyRunning "policy decision point"))) 0
  | begins {run : Starting} {made : Nat} (idle : ¬ service.isRunning = true)
      (rest : StartsPoints now service [] service.pipeline.points run made) :
      StartTurn now service .fresh run made
  | succeeds {started later : List Point} {point : Point} {run : Starting} {made : Nat}
      (succeeded : point.start = .ok ())
      (rest : StartsPoints now service (started ++ [point]) later run made) :
      StartTurn now service (.startingPoint started point later) run made
  | fails {started later : List Point} {point : Point} {fault : InformationFault}
      (failed : point.start = .error fault) :
      StartTurn now service (.startingPoint started point later)
        (service.rollBack (.information fault) started.reverse) 0
  | gates {gate : GatePhase} {made : Nat}
      (resumes : Resumes now service.backoff service.cache service.journal gate
        (service.cache.resumeGate service.journal now service.backoff gate) made) :
      StartTurn now service (.gating gate)
        (service.afterGate (service.cache.resumeGate service.journal now service.backoff gate)) made
  | awaitsLoop {number : Nat} {fault : ServiceFault} (runs : ¬ service.hasEnded number = true) :
      StartTurn now service (.stoppingLoop number fault)
        (service, .waiting (.stoppingLoop number fault)) 0
  | stopsLoop {number : Nat} {fault : ServiceFault} :
      StartTurn now service (.stoppingLoop number fault)
        (service.rollBack fault service.pipeline.points.reverse) 0
  | stops {later : List Point} {fault : ServiceFault} :
      StartTurn now service (.stoppingPoint later fault) (service.rollBack fault later) 0

section Soundness

variable (service : Service) (now : Nat)

theorem startPoints_turn (started later : List Point) :
    ∃ made,
      StartsPoints now service started later (service.startPoints now started later) made := by
  cases later with
  | cons point later => exact ⟨0, .starts⟩
  | nil =>
      simp only [startPoints]
      split
      · next refused => exact ⟨0, .refuses refused⟩
      · next begun begins =>
          obtain ⟨made, tries⟩ := begun.cache.gate_tries begun.journal now begun.backoff
            begun.cache.options.startupRetries.toNat
          exact ⟨made, .gates begins tries⟩

theorem start_turn (phase : StartPhase) :
    ∃ made, StartTurn now service phase (service.start now phase) made := by
  cases phase with
  | fresh =>
      simp only [start]
      split
      · next running => exact ⟨0, .refuses running⟩
      · next idle =>
          obtain ⟨made, rest⟩ := service.startPoints_turn now [] service.pipeline.points
          exact ⟨made, .begins idle rest⟩
  | startingPoint started point later =>
      simp only [start]
      split
      · next succeeded =>
          obtain ⟨made, rest⟩ := service.startPoints_turn now (started ++ [point]) later
          exact ⟨made, .succeeds succeeded rest⟩
      · next fault failed => exact ⟨0, .fails failed⟩
  | gating gate =>
      obtain ⟨made, resumes⟩ :=
        service.cache.resumeGate_resumes service.journal now service.backoff gate
      exact ⟨made, .gates resumes⟩
  | stoppingLoop number fault =>
      simp only [start]
      split
      · exact ⟨0, .stopsLoop⟩
      · next runs => exact ⟨0, .awaitsLoop runs⟩
  | stoppingPoint later fault => exact ⟨0, .stops⟩

end Soundness

/-! ## Stages -/

/-- The service since a start began, with the starts and stops that it has made. -/
structure Follows (origin service : Service) (made : List Call) : Prop where
  options : service.options = origin.options
  pipeline : service.pipeline = origin.pipeline
  cacheOptions : service.cache.options = origin.cache.options
  calls : governingCalls service.calls = governingCalls origin.calls ++ made

/-- The points up to the first one that fails, if there is one. -/
structure Begins (points started rest : List Point) : Prop where
  split : points = started ++ rest
  succeeded : ∀ point ∈ started, point.start = .ok ()
  fails : ∀ point ∈ rest.head?, ∃ fault, point.start = .error fault

/-- Where a start stands that waits, and how many attempts the gate has made. -/
inductive Stage (origin service : Service) : StartPhase → Nat → Prop where
  | fresh (follows : Follows origin service []) (shut : service.admission = none)
      (noLoop : service.cache.loop = none) : Stage origin service .fresh 0
  | startingPoint {started later : List Point} {point : Point}
      (split : origin.pipeline.points = started ++ point :: later)
      (succeeded : ∀ point ∈ started, point.start = .ok ())
      (follows : Follows origin service ((started ++ [point]).map .start))
      (shut : service.admission = none) (noLoop : service.cache.loop = none) :
      Stage origin service (.startingPoint started point later) 0
  | gating {gate : GatePhase} {made : Nat}
      (succeeded : ∀ point ∈ origin.pipeline.points, point.start = .ok ())
      (follows : Follows origin service (origin.pipeline.points.map .start))
      (shut : service.admission = none) (loop : service.cache.loop.isSome = true)
      (counted : made + gate.remaining = origin.cache.options.startupRetries.toNat)
      (wakes : gate.wake.isSome = true) : Stage origin service (.gating gate) made
  | stoppingLoop {number made : Nat} {fault : ServiceFault}
      (succeeded : ∀ point ∈ origin.pipeline.points, point.start = .ok ())
      (follows : Follows origin service (origin.pipeline.points.map .start))
      (shut : service.admission = none) (noLoop : service.cache.loop = none)
      (told : number ∈ service.stopping) : Stage origin service (.stoppingLoop number fault) made
  | stoppingPoint {later : List Point} {fault : ServiceFault} {made : Nat}
      (started stopped rest : List Point) (begins : Begins origin.pipeline.points started rest)
      (order : started.reverse = stopped ++ later)
      (follows : Follows origin service
        ((started ++ rest.take 1).map .start ++ stopped.map .stop))
      (shut : service.admission = none) (noLoop : service.cache.loop = none) :
      Stage origin service (.stoppingPoint later fault) made

/-- A start has succeeded: every point was started once, in order, and none was stopped. -/
structure Opened (origin service : Service) (made : Nat) : Prop where
  follows : Follows origin service (origin.pipeline.points.map .start)
  refreshes : service.isRefreshRunning = true
  running : service.isRunning = true
  gate : service.cache.isReady = true ∨ made = origin.cache.options.startupRetries.toNat

/-- A start has failed: no point after one that fails was started, and those that were started are
stopped, last first. -/
structure RolledBack (origin service : Service) (started rest : List Point) : Prop where
  begins : Begins origin.pipeline.points started rest
  follows : Follows origin service
    ((started ++ rest.take 1).map .start ++ started.reverse.map .stop)
  stopped : service.isRunning = false
  noLoop : service.isRefreshRunning = false

def Reaches (origin service : Service) :
    Progress (Except ServiceFault Unit) StartPhase → Nat → Prop
  | .waiting phase, made => Stage origin service phase made
  | .done (.ok ()), made => Opened origin service made
  | .done (.error _), _ => ∃ started rest, RolledBack origin service started rest

section Stages

variable {origin service : Service} {now made count : Nat}

theorem Follows.called {given : List Call} (follows : Follows origin service given) (call : Call)
    (governing : call.isGoverning = true) :
    Follows origin (service.called [call]) (given ++ [call]) := by
  refine ⟨follows.options, follows.pipeline, follows.cacheOptions, ?_⟩
  have kept : governingCalls [call] = [call] := List.filter_cons_of_pos governing
  rw [Service.called, governingCalls_append, follows.calls, kept, List.append_assoc]

theorem rollBack_reaches (started stopped rest : List Point) {later : List Point}
    {fault : ServiceFault} (begins : Begins origin.pipeline.points started rest)
    (order : started.reverse = stopped ++ later)
    (follows : Follows origin service ((started ++ rest.take 1).map .start ++ stopped.map .stop))
    (shut : service.admission = none) (noLoop : service.cache.loop = none) (made : Nat) :
    Reaches origin (service.rollBack fault later).1 (service.rollBack fault later).2 made := by
  cases later with
  | nil =>
      rw [List.append_nil] at order
      subst order
      exact ⟨started, rest, begins, follows, by rw [rollBack, isRunning, shut]; rfl,
        by rw [rollBack, isRefreshRunning, noLoop]; rfl⟩
  | cons point later =>
      have stops := follows.called (.stop point) rfl
      have last : (stopped ++ [point]).map Call.stop = stopped.map .stop ++ [.stop point] :=
        List.map_append
      refine .stoppingPoint started (stopped ++ [point]) rest begins ?_ ?_ shut noLoop
      · rw [order, List.append_assoc]
        rfl
      · rw [last, ← List.append_assoc]
        exact stops

theorem openAdmission_reaches
    (succeeded : ∀ point ∈ origin.pipeline.points, point.start = .ok ())
    (follows : Follows origin service (origin.pipeline.points.map .start))
    (shut : service.admission = none) (loop : service.cache.loop.isSome = true)
    (gate : service.cache.isReady = true ∨ made = origin.cache.options.startupRetries.toNat) :
    Reaches origin service.openAdmission.1 service.openAdmission.2 made := by
  obtain ⟨number, running⟩ := Option.isSome_iff_exists.mp loop
  -- A start that fails here has a loop to stop, so the last case of `openAdmission` is out.
  have dismissed : service.dismissLoop.2 = some number := running
  unfold openAdmission
  split
  · next shell opens =>
      exact ⟨⟨follows.options, follows.pipeline, follows.cacheOptions, follows.calls⟩, loop, rfl,
        gate⟩
  · next fault refused =>
      split
      · next after number' ran =>
          have after' : service.dismissLoop.1 = after := by rw [ran]
          subst after'
          rw [ran] at dismissed
          cases dismissed
          refine .stoppingLoop succeeded ?_ shut rfl ?_
          · exact ⟨follows.options, follows.pipeline, follows.cacheOptions, follows.calls⟩
          · simp [dismissLoop, PolicyCache.dismissLoop, running]
      · next after ran =>
          rw [ran] at dismissed
          cases dismissed

theorem afterGate_reaches {run : PolicyCache.GateRun}
    (steady : Steady (service.cache, service.journal) (run.1, run.2.1))
    (succeeded : ∀ point ∈ origin.pipeline.points, point.start = .ok ())
    (follows : Follows origin service (origin.pipeline.points.map .start))
    (shut : service.admission = none) (loop : service.cache.loop.isSome = true)
    {remaining : Nat} (tells : Tells count remaining run)
    (counted : made + remaining = origin.cache.options.startupRetries.toNat) :
    Reaches origin (service.afterGate run).1 (service.afterGate run).2 (made + count) := by
  obtain ⟨cache, journal, progress⟩ := run
  have follows' : Follows origin (service.withCache cache journal)
      (origin.pipeline.points.map .start) :=
    ⟨follows.options, follows.pipeline, steady.options.trans follows.cacheOptions, follows.calls⟩
  have loop' : (service.withCache cache journal).cache.loop.isSome = true :=
    steady.loop ▸ loop
  cases progress with
  | waiting gate =>
      obtain ⟨left, wakes⟩ := tells
      exact .gating succeeded follows' shut loop' (by rw [Nat.add_assoc, left, counted]) wakes
  | done value =>
      refine openAdmission_reaches succeeded follows' shut loop' ?_
      exact tells.imp_right fun all => by rw [all, counted]

theorem startRefresh_ok {begun : Service} (begins : service.startRefresh = .ok begun) :
    begun.cache.loop.isSome = true ∧ begun.cache.options = service.cache.options ∧
      begun.options = service.options ∧ begun.pipeline = service.pipeline ∧
      begun.admission = service.admission ∧ begun.calls = service.calls := by
  simp only [startRefresh, freshNumber] at begins
  split at begins
  · cases begins
  · next cache ran =>
      cases begins
      unfold PolicyCache.startRefresh at ran
      split at ran
      · cases ran
      · split at ran
        · cases ran
        · cases ran
          exact ⟨rfl, rfl, rfl, rfl, rfl, rfl⟩

theorem StartsPoints.reaches {started later : List Point} {run : Starting}
    (turn : StartsPoints now service started later run count)
    (split : origin.pipeline.points = started ++ later)
    (succeeded : ∀ point ∈ started, point.start = .ok ())
    (follows : Follows origin service (started.map .start))
    (shut : service.admission = none) (noLoop : service.cache.loop = none) :
    Reaches origin run.1 run.2 (0 + count) := by
  cases turn with
  | starts =>
      refine .startingPoint split succeeded ?_ shut noLoop
      rw [List.map_append]
      exact follows.called _ rfl
  | refuses refused =>
      rw [List.append_nil] at split
      subst split
      rw [follows.pipeline]
      refine rollBack_reaches _ [] [] ⟨(List.append_nil _).symm, succeeded, by simp⟩
        (List.nil_append _).symm ?_ shut noLoop _
      simpa using follows
  | @gates begun made begins tries =>
      rw [List.append_nil] at split
      subst split
      obtain ⟨loop, options, options', pipeline, admission, calls⟩ := startRefresh_ok begins
      have follows' : Follows origin begun (origin.pipeline.points.map .start) :=
        ⟨options'.trans follows.options, pipeline.trans follows.pipeline,
          options.trans follows.cacheOptions, by rw [calls, follows.calls]⟩
      refine afterGate_reaches (begun.cache.gate_steady begun.journal now _ _) succeeded follows'
        (admission.trans shut) loop (tries.tells fun outcome same => by cases same) ?_
      rw [Nat.zero_add, follows'.cacheOptions]

theorem StartTurn.reaches {phase : StartPhase} {run : Starting}
    (turn : StartTurn now service phase run count) (stage : Stage origin service phase made) :
    Reaches origin run.1 run.2 (made + count) := by
  cases stage with
  | fresh follows shut noLoop =>
      cases turn with
      | refuses running =>
          rw [isRunning, shut] at running
          cases running
      | begins idle rest =>
          rw [follows.pipeline] at rest
          exact rest.reaches rfl (by simp) follows shut noLoop
  | @startingPoint started later point split succeeded follows shut noLoop =>
      cases turn with
      | succeeds succeeded' rest =>
          refine rest.reaches (by rw [split, List.append_assoc]; rfl) ?_ follows shut noLoop
          intro other mem
          rcases List.mem_append.mp mem with before | here
          · exact succeeded other before
          · cases List.mem_singleton.mp here
            exact succeeded'
      | fails failed =>
          refine rollBack_reaches started [] (point :: later) ⟨split, succeeded, ?_⟩
            (List.nil_append _).symm ?_ shut noLoop _
          · intro other first
            cases Option.mem_some.mp first
            exact ⟨_, failed⟩
          · simpa using follows
  | gating succeeded follows shut loop counted wakes =>
      cases turn with
      | gates resumes =>
          exact afterGate_reaches (service.cache.resumeGate_steady service.journal now _ _)
            succeeded follows shut loop (resumes.tells wakes) counted
  | stoppingLoop succeeded follows shut noLoop told =>
      cases turn with
      | awaitsLoop runs => exact .stoppingLoop succeeded follows shut noLoop told
      | stopsLoop =>
          rw [follows.pipeline]
          refine rollBack_reaches _ [] [] ⟨(List.append_nil _).symm, succeeded, by simp⟩
            (List.nil_append _).symm ?_ shut noLoop _
          simpa using follows
  | stoppingPoint started stopped rest begins order follows shut noLoop =>
      cases turn with
      | stops => exact rollBack_reaches started stopped rest begins order follows shut noLoop _

end Stages

/-! ## Coming nearer to the end -/

section Nearer

variable {origin service : Service} {now made count : Nat} {phase' : StartPhase}

theorem rollBack_nearer {fault : ServiceFault} {later : List Point}
    (waits : (service.rollBack fault later).2 = .waiting phase') (points retries : Nat) :
    phase'.distance points retries ≤ later.length := by
  cases later with
  | nil => cases waits
  | cons point later =>
      cases waits
      exact Nat.le_refl _

theorem openAdmission_nearer (waits : service.openAdmission.2 = .waiting phase') (retries : Nat) :
    phase'.distance service.pipeline.points.length retries <
      service.pipeline.points.length + 3 := by
  unfold openAdmission at waits
  split at waits
  · cases waits
  · split at waits
    · cases waits
      exact Nat.lt_succ_self _
    · next after ran =>
        have after' : service.dismissLoop.1 = after := by rw [ran]
        have near := rollBack_nearer waits service.pipeline.points.length retries
        rw [← after', List.length_reverse] at near
        exact Nat.lt_of_le_of_lt near (by simp [dismissLoop])

theorem afterGate_nearer {run : PolicyCache.GateRun}
    (waits : (service.afterGate run).2 = .waiting phase') (retries bound : Nat)
    (near : ∀ gate, run.2.2 = .waiting gate → gate.distance < bound) :
    phase'.distance service.pipeline.points.length retries <
      service.pipeline.points.length + 3 + bound := by
  obtain ⟨cache, journal, progress⟩ := run
  cases progress with
  | waiting gate =>
      cases waits
      exact Nat.add_lt_add_left (near gate rfl) _
  | done value =>
      exact Nat.lt_of_lt_of_le (openAdmission_nearer waits retries) (Nat.le_add_right _ _)

theorem StartsPoints.nearer {started later : List Point} {run : Starting}
    (turn : StartsPoints now service started later run count)
    (waits : run.2 = .waiting phase') :
    phase'.distance service.pipeline.points.length service.cache.options.startupRetries.toNat <
      service.pipeline.points.length + 2 * service.cache.options.startupRetries.toNat + 4 +
        later.length := by
  cases turn with
  | starts =>
      cases waits
      simp only [StartPhase.distance, List.length_cons]
      omega
  | refuses refused =>
      have near := rollBack_nearer waits service.pipeline.points.length
        service.cache.options.startupRetries.toNat
      rw [List.length_reverse] at near
      omega
  | gates begins tries =>
      obtain ⟨-, options, -, pipeline, -⟩ := startRefresh_ok begins
      have near := afterGate_nearer waits service.cache.options.startupRetries.toNat
        (2 * service.cache.options.startupRetries.toNat) fun gate waits' => by
          have near := tries.nearer waits'
          rw [options] at near
          exact near
      rw [pipeline] at near
      omega

theorem StartTurn.nearer {phase : StartPhase} {run : Starting}
    (turn : StartTurn now service phase run count) (stage : Stage origin service phase made)
    (goesOn : service.startCanGoOn now phase = true) (waits : run.2 = .waiting phase') :
    phase'.distance service.pipeline.points.length service.cache.options.startupRetries.toNat <
      phase.distance service.pipeline.points.length
        service.cache.options.startupRetries.toNat := by
  cases turn with
  | refuses running => cases waits
  | begins idle rest =>
      have near := rest.nearer waits
      simp only [StartPhase.distance] at near ⊢
      omega
  | succeeds succeeded rest => exact rest.nearer waits
  | @fails started later point fault failed =>
      have near := rollBack_nearer waits service.pipeline.points.length
        service.cache.options.startupRetries.toNat
      rw [List.length_reverse] at near
      cases stage with
      | startingPoint split succeeded follows shut noLoop =>
          have size := congrArg List.length split
          rw [← follows.pipeline, List.length_append] at size
          simp only [StartPhase.distance] at near ⊢
          omega
  | gates resumes =>
      exact afterGate_nearer waits _ _ fun gate waits' => resumes.nearer goesOn waits'
  | awaitsLoop runs => exact absurd goesOn runs
  | stopsLoop =>
      have near := rollBack_nearer waits service.pipeline.points.length
        service.cache.options.startupRetries.toNat
      rw [List.length_reverse] at near
      exact Nat.lt_succ_of_lt (Nat.lt_succ_of_le near)
  | stops => exact Nat.lt_succ_of_le (rollBack_nearer waits _ _)

end Nearer

end Service

end DecisionPoint
