import DecisionPoint.Proofs.Service.Starting

/-!
# The moves of a start and of a shutdown

Seen from the information points, a turn of a start or of a shutdown starts one of them, or stops
one, or leaves them alone.  Which of it happens depends on little: the phase, whether admission is
open, whether the background loop runs, and what the point that was called last has answered.
-/

set_option autoImplicit false

namespace DecisionPoint

/-- Whether the background loop runs, and whether admission is open. -/
structure Stand where
  looping : Bool
  isOpen : Bool

namespace Service

def stand (service : Service) : Stand :=
  ⟨service.isRefreshRunning, service.isRunning⟩

/-- The points are the same as before, and these of them were started and stopped. -/
structure Moved (before after : Service) (calls : List Call) : Prop where
  pipeline : after.pipeline = before.pipeline
  calls : governingCalls after.calls = governingCalls before.calls ++ calls

/-- Points are stopped, last first, in a start that fails. -/
inductive RollsBack (fault : ServiceFault) :
    List Point → Progress (Except ServiceFault Unit) StartPhase → List Call → Prop where
  | ends : RollsBack fault [] (.done (.error fault)) []
  | stops {point : Point} {later : List Point} :
      RollsBack fault (point :: later) (.waiting (.stoppingPoint later fault)) [.stop point]

/-- The points that were started and those that are left, in a start that goes on. -/
inductive Remains (points : List Point) (stand : Stand) :
    StartPhase → List Point → List Point → Prop where
  | begins (shut : stand.isOpen = false) : Remains points stand .fresh [] points
  | succeeds {started later : List Point} {point : Point} (succeeded : point.start = .ok ()) :
      Remains points stand (.startingPoint started point later) (started ++ [point]) later

/-- The loop runs now and no point is left, so that a start stands at the gate; the truth value
tells whether the loop has been started for it. -/
inductive AtGate (points : List Point) (stand : Stand) : StartPhase → Bool → Prop where
  | comes {phase : StartPhase} {started : List Point} (free : stand.looping = false)
      (remains : Remains points stand phase started []) : AtGate points stand phase true
  | stays {gate : GatePhase} : AtGate points stand (.gating gate) stand.looping

/-- The turn of a start: the points, how things stood, the phase, how things stand after it, what
it came to, and the points that it has started or stopped. -/
inductive StartMoves (points : List Point) (stand : Stand) :
    StartPhase → Stand → Progress (Except ServiceFault Unit) StartPhase → List Call → Prop where
  | refused (running : stand.isOpen = true) :
      StartMoves points stand .fresh stand
        (.done (.error (.alreadyRunning "policy decision point"))) []
  | starts {phase : StartPhase} {started later : List Point} {point : Point}
      (remains : Remains points stand phase started (point :: later)) :
      StartMoves points stand phase stand (.waiting (.startingPoint started point later))
        [.start point]
  | fails {started later : List Point} {point : Point} {fault : InformationFault}
      {progress : Progress (Except ServiceFault Unit) StartPhase} {calls : List Call}
      (failed : point.start = .error fault)
      (rolls : RollsBack (.information fault) started.reverse progress calls) :
      StartMoves points stand (.startingPoint started point later) stand progress calls
  | blocked {phase : StartPhase} {started : List Point} {fault : ServiceFault}
      {progress : Progress (Except ServiceFault Unit) StartPhase} {calls : List Call}
      (remains : Remains points stand phase started [])
      (taken : ∀ component, fault = .alreadyRunning component →
        component = "policy refresh task" ∧ stand.looping = true)
      (rolls : RollsBack fault points.reverse progress calls) :
      StartMoves points stand phase stand progress calls
  | gates {phase : StartPhase} {gate : GatePhase} {looping : Bool}
      (atGate : AtGate points stand phase looping) :
      StartMoves points stand phase ⟨looping, stand.isOpen⟩ (.waiting (.gating gate)) []
  | opens {phase : StartPhase} {looping : Bool} (atGate : AtGate points stand phase looping) :
      StartMoves points stand phase ⟨looping, true⟩ (.done (.ok ())) []
  | closes {phase : StartPhase} {number : Nat} {message : String}
      (atGate : AtGate points stand phase true) :
      StartMoves points stand phase ⟨false, stand.isOpen⟩
        (.waiting (.stoppingLoop number (.config message))) []
  | gaveUp {phase : StartPhase} {message : String}
      {progress : Progress (Except ServiceFault Unit) StartPhase} {calls : List Call}
      (atGate : AtGate points stand phase false)
      (rolls : RollsBack (.config message) points.reverse progress calls) :
      StartMoves points stand phase ⟨false, stand.isOpen⟩ progress calls
  | awaitsLoop {number : Nat} {fault : ServiceFault} :
      StartMoves points stand (.stoppingLoop number fault) stand
        (.waiting (.stoppingLoop number fault)) []
  | stopsLoop {number : Nat} {fault : ServiceFault}
      {progress : Progress (Except ServiceFault Unit) StartPhase} {calls : List Call}
      (rolls : RollsBack fault points.reverse progress calls) :
      StartMoves points stand (.stoppingLoop number fault) stand progress calls
  | stops {later : List Point} {fault : ServiceFault}
      {progress : Progress (Except ServiceFault Unit) StartPhase} {calls : List Call}
      (rolls : RollsBack fault later progress calls) :
      StartMoves points stand (.stoppingPoint later fault) stand progress calls

/-- Points are stopped, last first, in a shutdown. -/
inductive Stops : List Point → Progress Unit StopPhase → List Call → Prop where
  | ends : Stops [] (.done ()) []
  | stops {point : Point} {later : List Point} :
      Stops (point :: later) (.waiting (.stoppingPoint later)) [.stop point]

/-- A shutdown comes to the loop, and this tells whether admission is open then. -/
inductive AtLoop (stand : Stand) : StopPhase → Bool → Prop where
  | comes : AtLoop stand .fresh false
  | drained {number : Nat} : AtLoop stand (.draining number) stand.isOpen

inductive StopMoves (points : List Point) (stand : Stand) :
    StopPhase → Stand → Progress Unit StopPhase → List Call → Prop where
  | drains {number : Nat} (running : stand.isOpen = true) :
      StopMoves points stand .fresh ⟨stand.looping, false⟩ (.waiting (.draining number)) []
  | awaitsWorkers {number : Nat} :
      StopMoves points stand (.draining number) stand (.waiting (.draining number)) []
  | dismisses {phase : StopPhase} {isOpen : Bool} {number : Nat}
      (atLoop : AtLoop stand phase isOpen) (looped : stand.looping = true) :
      StopMoves points stand phase ⟨false, isOpen⟩ (.waiting (.stoppingLoop number)) []
  | skips {phase : StopPhase} {isOpen : Bool} {progress : Progress Unit StopPhase}
      {calls : List Call} (atLoop : AtLoop stand phase isOpen) (free : stand.looping = false)
      (stops : Stops points.reverse progress calls) :
      StopMoves points stand phase ⟨false, isOpen⟩ progress calls
  | awaitsLoop {number : Nat} :
      StopMoves points stand (.stoppingLoop number) stand (.waiting (.stoppingLoop number)) []
  | stopsLoop {number : Nat} {progress : Progress Unit StopPhase} {calls : List Call}
      (stops : Stops points.reverse progress calls) :
      StopMoves points stand (.stoppingLoop number) stand progress calls
  | stops {later : List Point} {progress : Progress Unit StopPhase} {calls : List Call}
      (stops : Stops later progress calls) :
      StopMoves points stand (.stoppingPoint later) stand progress calls

/-! ## Every turn is a move -/

theorem Moved.still {before after : Service} (pipeline : after.pipeline = before.pipeline)
    (calls : after.calls = before.calls) : Moved before after [] :=
  ⟨pipeline, by rw [calls, List.append_nil]⟩

theorem Moved.after {a b c : Service} {calls : List Call} (pipeline : b.pipeline = a.pipeline)
    (same : governingCalls b.calls = governingCalls a.calls) (moved : Moved b c calls) :
    Moved a c calls :=
  ⟨moved.pipeline.trans pipeline, by rw [moved.calls, same]⟩

theorem called_moved (service : Service) {call : Call} (governing : call.isGoverning = true) :
    Moved service (service.called [call]) [call] := by
  refine ⟨rfl, ?_⟩
  rw [called, governingCalls_append]
  exact congrArg _ (List.filter_cons_of_pos governing)

section Functions

variable (service : Service) (now : Nat)

theorem rollBack_moves (fault : ServiceFault) (later : List Point) :
    ∃ calls, RollsBack fault later (service.rollBack fault later).2 calls ∧
      Moved service (service.rollBack fault later).1 calls ∧
      (service.rollBack fault later).1.stand = service.stand := by
  cases later with
  | nil => exact ⟨[], .ends, .still rfl rfl, rfl⟩
  | cons point later => exact ⟨[.stop point], .stops, service.called_moved rfl, rfl⟩

theorem stopPoints_moves (later : List Point) :
    ∃ calls, Stops later (service.stopPoints later).2 calls ∧
      Moved service (service.stopPoints later).1 calls ∧
      (service.stopPoints later).1.stand = service.stand := by
  cases later with
  | nil => exact ⟨[], .ends, .still rfl rfl, rfl⟩
  | cons point later => exact ⟨[.stop point], .stops, service.called_moved rfl, rfl⟩

theorem shellStart_config {options : AdmissionOptions} {fault : ServiceFault}
    (refused : Shell.start options = .error fault) : ∃ message, fault = .config message := by
  unfold Shell.start at refused
  split at refused
  · cases refused
    exact ⟨_, rfl⟩
  · split at refused
    · cases refused
      exact ⟨_, rfl⟩
    · cases refused

theorem dismissLoop_moves :
    Moved service service.dismissLoop.1 [] ∧
      service.dismissLoop.1.stand = ⟨false, service.isRunning⟩ ∧
      service.dismissLoop.2.isSome = service.isRefreshRunning :=
  ⟨.still rfl rfl, rfl, rfl⟩

/-- The loop can be started unless it runs, or no time is set between two refreshes. -/
theorem startRefresh_cases :
    (∃ begun, service.startRefresh = .ok begun ∧ service.isRefreshRunning = false) ∨
      ∃ fault, service.startRefresh = .error fault ∧
        ∀ component, fault = .alreadyRunning component →
          component = "policy refresh task" ∧ service.isRefreshRunning = true := by
  simp only [startRefresh, freshNumber, PolicyCache.startRefresh]
  by_cases zero : service.cache.options.refreshInterval.isZero = true
  · refine .inr ⟨_, by simp only [zero, if_true]; rfl, ?_⟩
    intro component same
    cases same
  · by_cases taken : service.cache.loop.isSome = true
    · refine .inr ⟨_, by simp only [zero, taken, if_true]; rfl, ?_⟩
      intro component same
      cases same
      exact ⟨rfl, taken⟩
    · refine .inl ⟨_, by simp only [zero, taken]; rfl, ?_⟩
      exact Bool.eq_false_iff.mpr taken

variable {points : List Point} {stand : Stand} {phase : StartPhase}

theorem openAdmission_moves (atGate : AtGate points stand phase service.isRefreshRunning)
    (isOpen : service.isRunning = stand.isOpen) (same : service.pipeline.points = points) :
    ∃ calls, StartMoves points stand phase service.openAdmission.1.stand service.openAdmission.2
        calls ∧ Moved service service.openAdmission.1 calls := by
  obtain ⟨moved, stand', looped⟩ := service.dismissLoop_moves
  unfold openAdmission
  split
  · next shell opens =>
      exact ⟨[], .opens atGate, .still rfl rfl⟩
  · next fault refused =>
      obtain ⟨message, rfl⟩ := shellStart_config refused
      rw [isOpen] at stand'
      rw [← looped] at atGate
      generalize service.dismissLoop = run at moved stand' atGate ⊢
      obtain ⟨after, number?⟩ := run
      simp only at moved stand'
      cases number? with
      | some number =>
          refine ⟨[], ?_, moved⟩
          rw [stand']
          exact .closes atGate
      | none =>
          obtain ⟨calls, rolls, moved', kept⟩ :=
            after.rollBack_moves (.config message) after.pipeline.points.reverse
          refine ⟨calls, ?_, .after moved.pipeline (by rw [moved.calls, List.append_nil]) moved'⟩
          simp only
          rw [kept, stand']
          rw [moved.pipeline, same] at rolls ⊢
          exact .gaveUp atGate rolls

theorem afterGate_moves {run : PolicyCache.GateRun}
    (steady : Steady (service.cache, service.journal) (run.1, run.2.1))
    (atGate : AtGate points stand phase service.isRefreshRunning)
    (isOpen : service.isRunning = stand.isOpen) (same : service.pipeline.points = points) :
    ∃ calls, StartMoves points stand phase (service.afterGate run).1.stand
        (service.afterGate run).2 calls ∧ Moved service (service.afterGate run).1 calls := by
  obtain ⟨cache, journal, progress⟩ := run
  have looping : (service.withCache cache journal).isRefreshRunning = service.isRefreshRunning :=
    congrArg Option.isSome steady.loop
  cases progress with
  | waiting gate =>
      refine ⟨[], ?_, .still rfl rfl⟩
      have moves : StartMoves points stand phase _ (.waiting (.gating gate)) [] := .gates atGate
      rw [← looping, ← isOpen] at moves
      exact moves
  | done value =>
      rw [← looping] at atGate
      obtain ⟨calls, moves, moved⟩ :=
        (service.withCache cache journal).openAdmission_moves atGate isOpen same
      exact ⟨calls, moves, moved.pipeline, moved.calls⟩

theorem startPoints_moves {started later : List Point}
    (remains : Remains service.pipeline.points service.stand phase started later) :
    ∃ calls, StartMoves service.pipeline.points service.stand phase
        (service.startPoints now started later).1.stand
        (service.startPoints now started later).2 calls ∧
      Moved service (service.startPoints now started later).1 calls := by
  cases later with
  | cons point later =>
      exact ⟨[.start point], .starts remains, service.called_moved rfl⟩
  | nil =>
      simp only [startPoints]
      split
      · next fault refused =>
          obtain ⟨calls, rolls, moved, kept⟩ :=
            service.rollBack_moves fault service.pipeline.points.reverse
          obtain ⟨begun, begins, -⟩ | ⟨fault', refused', taken⟩ := service.startRefresh_cases
          · rw [begins] at refused
            cases refused
          · rw [refused'] at refused
            cases refused
            refine ⟨calls, ?_, moved⟩
            rw [kept]
            exact .blocked remains taken rolls
      · next begun begins =>
          obtain ⟨loop, -, -, pipeline, admission, calls⟩ := startRefresh_ok begins
          obtain ⟨begun', -, free⟩ | ⟨fault, refused, -⟩ := service.startRefresh_cases
          · have atGate : AtGate service.pipeline.points service.stand phase
                begun.isRefreshRunning := by
              rw [isRefreshRunning, loop]
              exact .comes free remains
            obtain ⟨calls', moves, moved⟩ := begun.afterGate_moves
              (begun.cache.gate_steady begun.journal now _ _) atGate
              (congrArg Option.isSome admission) (congrArg Pipeline.points pipeline)
            exact ⟨calls', moves, .after pipeline (by rw [calls]) moved⟩
          · rw [begins] at refused
            cases refused

theorem start_moves (phase : StartPhase) :
    ∃ calls, StartMoves service.pipeline.points service.stand phase
        (service.start now phase).1.stand (service.start now phase).2 calls ∧
      Moved service (service.start now phase).1 calls := by
  cases phase with
  | fresh =>
      simp only [start]
      split
      · next running => exact ⟨[], .refused running, .still rfl rfl⟩
      · next idle => exact service.startPoints_moves now (.begins (Bool.eq_false_iff.mpr idle))
  | startingPoint started point later =>
      simp only [start]
      split
      · next succeeded => exact service.startPoints_moves now (.succeeds succeeded)
      · next fault failed =>
          obtain ⟨calls, rolls, moved, kept⟩ :=
            service.rollBack_moves (.information fault) started.reverse
          rw [kept]
          exact ⟨calls, .fails failed rolls, moved⟩
  | gating gate =>
      exact service.afterGate_moves (service.cache.resumeGate_steady service.journal now _ gate)
        .stays rfl rfl
  | stoppingLoop number fault =>
      simp only [start]
      split
      · obtain ⟨calls, rolls, moved, kept⟩ :=
          service.rollBack_moves fault service.pipeline.points.reverse
        rw [kept]
        exact ⟨calls, .stopsLoop rolls, moved⟩
      · exact ⟨[], .awaitsLoop, .still rfl rfl⟩
  | stoppingPoint later fault =>
      obtain ⟨calls, rolls, moved, kept⟩ := service.rollBack_moves fault later
      simp only [start]
      rw [kept]
      exact ⟨calls, .stops rolls, moved⟩

theorem stopRefresh_moves {phase : StopPhase} {before : Service}
    (atLoop : AtLoop before.stand phase service.isRunning)
    (looping : service.isRefreshRunning = before.isRefreshRunning)
    (pipeline : service.pipeline = before.pipeline) (same : service.calls = before.calls) :
    ∃ calls, StopMoves before.pipeline.points before.stand phase service.stopRefresh.1.stand
        service.stopRefresh.2 calls ∧ Moved before service.stopRefresh.1 calls := by
  obtain ⟨moved, stand', looped⟩ := service.dismissLoop_moves
  unfold stopRefresh
  rw [looping] at looped
  generalize service.dismissLoop = run at moved stand' looped ⊢
  obtain ⟨after, number?⟩ := run
  simp only at moved stand' looped
  cases number? with
  | some number =>
      refine ⟨[], ?_, .after pipeline (by rw [same]) moved⟩
      rw [stand']
      exact .dismisses atLoop looped.symm
  | none =>
      obtain ⟨calls, stops, moved', kept⟩ := after.stopPoints_moves after.pipeline.points.reverse
      have kept' : governingCalls after.calls = governingCalls before.calls := by
        rw [moved.calls, List.append_nil, same]
      refine ⟨calls, ?_, .after (moved.pipeline.trans pipeline) kept' moved'⟩
      simp only
      rw [kept, stand']
      rw [moved.pipeline, pipeline] at stops ⊢
      exact .skips atLoop looped.symm stops

theorem shutdown_moves (phase : StopPhase) :
    ∃ calls, StopMoves service.pipeline.points service.stand phase
        (service.shutdown phase).1.stand (service.shutdown phase).2 calls ∧
      Moved service (service.shutdown phase).1 calls := by
  cases phase with
  | fresh =>
      simp only [shutdown]
      split
      · next shut =>
          have atLoop : AtLoop service.stand .fresh service.isRunning := by
            rw [isRunning, shut]
            exact .comes
          exact service.stopRefresh_moves atLoop rfl rfl rfl
      · next number admits =>
          split
          · exact stopRefresh_moves { service with admission := none } .comes rfl rfl rfl
          · exact ⟨[], .drains (by rw [stand, isRunning, admits]; rfl), .still rfl rfl⟩
  | draining number =>
      simp only [shutdown]
      split
      · exact service.stopRefresh_moves .drained rfl rfl rfl
      · exact ⟨[], .awaitsWorkers, .still rfl rfl⟩
  | stoppingLoop number =>
      simp only [shutdown]
      split
      · obtain ⟨calls, stops, moved, kept⟩ :=
          service.stopPoints_moves service.pipeline.points.reverse
        rw [kept]
        exact ⟨calls, .stopsLoop stops, moved⟩
      · exact ⟨[], .awaitsLoop, .still rfl rfl⟩
  | stoppingPoint later =>
      obtain ⟨calls, stops, moved, kept⟩ := service.stopPoints_moves later
      simp only [shutdown]
      rw [kept]
      exact ⟨calls, .stops stops, moved⟩

end Functions

end Service

end DecisionPoint
