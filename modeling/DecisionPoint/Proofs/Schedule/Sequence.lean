import DecisionPoint.Proofs.Schedule.Conduct

/-!
# Starts and shutdowns one after another

When no two operations overlap, each information point is started when it is down and stopped when
it is up, as long as every shutdown follows a start that succeeded.  Other shutdowns stop points
that are down.
-/

set_option autoImplicit false

namespace DecisionPoint

/-! ## Points that are up -/

def Call.raises : Call → Bool
  | start point => point.start.isOk
  | _ => false

def Call.lowers : Call → Bool
  | stop _ => true
  | _ => false

/-- A point is stopped when it is up and started when it is not. -/
def Alternate : Bool → List Call → Prop
  | _, [] => True
  | up, call :: later => call.lowers = up ∧ Alternate call.raises later

def upAfter : Bool → List Call → Bool
  | up, [] => up
  | _, call :: later => upAfter call.raises later

/-- The starts and stops of the point at a place. -/
def callsAt (place : Nat) (log : List Entry) : List Call :=
  (log.filter fun entry => entry.place = place).map Entry.call

/-- Each point is stopped exactly when its last start has succeeded and it was not stopped since. -/
def Balanced (log : List Entry) : Prop := ∀ place, Alternate false (callsAt place log)

/-- The points at the first places are up, and no others. -/
def Level (log : List Entry) (height : Nat) : Prop :=
  ∀ place, upAfter false (callsAt place log) = decide (place < height)

theorem alternate_append (up : Bool) (calls more : List Call) :
    Alternate up (calls ++ more) ↔ Alternate up calls ∧ Alternate (upAfter up calls) more := by
  induction calls generalizing up with
  | nil => simp [Alternate, upAfter]
  | cons call later ih => simp [Alternate, upAfter, ih, and_assoc]

theorem upAfter_append (up : Bool) (calls more : List Call) :
    upAfter up (calls ++ more) = upAfter (upAfter up calls) more := by
  induction calls generalizing up with
  | nil => rfl
  | cons call later ih => exact ih call.raises

theorem callsAt_entriesOf (place number : Nat) (operation : Operation) (calls : List Call) :
    callsAt place (entriesOf number operation calls) =
      if operation.place = place then calls else [] := by
  unfold callsAt
  split
  · next same =>
      have all : (entriesOf number operation calls).filter (fun entry => entry.place = place) =
          entriesOf number operation calls := by
        rw [List.filter_eq_self]
        simp [entriesOf, same]
      rw [all, map_entriesOf]
  · next other => simp [entriesOf, other]

theorem callsAt_append (place : Nat) (log more : List Entry) :
    callsAt place (log ++ more) = callsAt place log ++ callsAt place more := by
  simp [callsAt]

/-- What a turn does to the height up to which the points are up. -/
inductive Shift : Nat → Nat → List Call → Nat → Prop where
  | still {height place : Nat} : Shift height place [] height
  | starts {height : Nat} {point : Point} :
      Shift height height [.start point] (height + point.start.isOk.toNat)
  | stops {height : Nat} {point : Point} : Shift (height + 1) height [.stop point] height

section Heights

variable {log : List Entry} {height height' number : Nat} {operation : Operation}
  {calls : List Call}

theorem Shift.balanced (shift : Shift height operation.place calls height')
    (balanced : Balanced log) (level : Level log height) :
    Balanced (log ++ entriesOf number operation calls) ∧
      Level (log ++ entriesOf number operation calls) height' := by
  have others {place : Nat} (other : operation.place ≠ place) :
      callsAt place (log ++ entriesOf number operation calls) = callsAt place log := by
    rw [callsAt_append, callsAt_entriesOf, if_neg other, List.append_nil]
  have here : callsAt operation.place (log ++ entriesOf number operation calls) =
      callsAt operation.place log ++ calls := by
    rw [callsAt_append, callsAt_entriesOf, if_pos rfl]
  constructor
  · intro place
    by_cases same : operation.place = place
    · subst same
      rw [here, alternate_append, level operation.place]
      refine ⟨balanced operation.place, ?_⟩
      cases shift <;> simp [Alternate, Call.lowers]
    · rw [others same]
      exact balanced place
  · intro place
    by_cases same : operation.place = place
    · subst same
      rw [here, upAfter_append, level operation.place]
      cases shift with
      | still => rfl
      | @starts _ point => cases answer : point.start.isOk <;> simp [upAfter, Call.raises, answer]
      | stops => simp [upAfter, Call.raises]
    · rw [others same, level place]
      cases shift with
      | still => rfl
      | @starts _ point =>
          cases point.start.isOk <;> simp
          omega
      | stops => simp; omega

theorem Balanced.earlier {more : List Entry} (balanced : Balanced (log ++ more)) :
    Balanced log := by
  intro place
  have whole := balanced place
  rw [callsAt_append, alternate_append] at whole
  exact whole.1

end Heights

/-! ## Operations in a row -/

/-- An operation begins when all others are done. -/
def OneAtATime (operations : List Operation) (_ : Operation) : Prop :=
  ∀ operation ∈ operations, operation.isDone = true

namespace Operation

def leaves (up : Bool) : Operation → Bool
  | start (.done (.ok ())) => true
  | shutdown (.done ()) => false
  | _ => up

/-- A shutdown that has taken a turn was due if the service was up. -/
def IsDue (up : Bool) : Operation → Prop
  | shutdown (.waiting .fresh) | start _ => True
  | shutdown _ => up = true

end Operation

/-- Whether a start has succeeded that no shutdown has followed. -/
def isUpAfter (operations : List Operation) : Bool :=
  operations.foldl Operation.leaves false

/-- Every shutdown has followed a start that succeeded, with no other shutdown in between. -/
def AllDue (operations : List Operation) : Prop :=
  ∀ before operation after, operations = before ++ operation :: after →
    operation.IsDue (isUpAfter before)

theorem allDue_nil : AllDue [] := by
  intro before operation after split
  cases List.append_eq_nil_iff.mp split.symm |>.2

theorem allDue_append (before : List Operation) (operation : Operation) :
    AllDue (before ++ [operation]) ↔ AllDue before ∧ operation.IsDue (isUpAfter before) := by
  constructor
  · intro due
    refine ⟨?_, due before operation [] rfl⟩
    rintro earlier other later rfl
    exact due earlier other (later ++ [operation]) (by simp)
  · rintro ⟨due, last⟩ earlier other later split
    rcases List.eq_nil_or_concat later with rfl | ⟨later, end', rfl⟩
    · obtain ⟨rfl, same⟩ := List.append_inj' split rfl
      cases same
      exact last
    · rw [List.concat_eq_append, ← List.cons_append, ← List.append_assoc] at split
      obtain ⟨rfl, -⟩ := List.append_inj' split rfl
      exact due earlier other later rfl

def fullHeight (size : Nat) (up : Bool) : Nat := if up then size else 0

/-- How things stand in the last of some operations, and up to which height the points are up; the
truth value tells whether the service was up before that operation. -/
inductive UnderWay (size : Nat) (up : Bool) : Stand → Operation → Nat → Prop where
  | fresh {operation : Operation} (fresh : operation.isFresh = true) :
      UnderWay size up ⟨up, up⟩ operation (fullHeight size up)
  | done {operation : Operation} {up' : Bool} (done : operation.isDone = true)
      (leaves : operation.leaves up = up') :
      UnderWay size up ⟨up', up'⟩ operation (fullHeight size up')
  | startingPoint {started later : List Point} {point : Point} (down : up = false)
      (all : started.length + later.length + 1 = size) :
      UnderWay size up ⟨false, false⟩
        (.start (.waiting (.startingPoint started point later)))
        (started.length + point.start.isOk.toNat)
  | gating {gate : GatePhase} (down : up = false) :
      UnderWay size up ⟨true, false⟩ (.start (.waiting (.gating gate))) size
  | takingBackLoop {number : Nat} {fault : ServiceFault} (down : up = false) :
      UnderWay size up ⟨false, false⟩ (.start (.waiting (.stoppingLoop number fault))) size
  | takingBack {later : List Point} {fault : ServiceFault} (down : up = false) :
      UnderWay size up ⟨false, false⟩ (.start (.waiting (.stoppingPoint later fault)))
        later.length
  | draining {number : Nat} (was : up = true) :
      UnderWay size up ⟨true, false⟩ (.shutdown (.waiting (.draining number))) size
  | stoppingLoop {number : Nat} (was : up = true) :
      UnderWay size up ⟨false, false⟩ (.shutdown (.waiting (.stoppingLoop number))) size
  | stoppingPoint {later : List Point} :
      UnderWay size up ⟨false, false⟩ (.shutdown (.waiting (.stoppingPoint later))) later.length

section Turns

variable {points : List Point} {size height : Nat} {up : Bool} {stand stand' : Stand}
  {calls : List Call}

theorem Service.RollsBack.underWay {fault : ServiceFault}
    {progress : Progress (Except ServiceFault Unit) StartPhase}
    (rolls : RollsBack fault points progress calls) (down : up = false) (size : Nat) :
    ∃ height, UnderWay size up ⟨false, false⟩ (.start progress) height ∧
      Shift points.length (Operation.start progress).place calls height := by
  cases rolls with
  | ends =>
      subst down
      exact ⟨_, .done rfl rfl, .still⟩
  | stops => exact ⟨_, .takingBack down, .stops⟩

/-- How things stand when the start goes on with the points that are left. -/
theorem UnderWay.remains {phase : StartPhase} {started later : List Point}
    (way : UnderWay points.length up stand (.start (.waiting phase)) height)
    (remains : Service.Remains points stand phase started later) :
    up = false ∧ stand = ⟨false, false⟩ ∧ height = started.length ∧
      started.length + later.length = points.length := by
  cases remains with
  | begins shut =>
      cases way with
      | fresh fresh =>
          have down : up = false := shut
          subst down
          exact ⟨rfl, rfl, rfl, Nat.zero_add _⟩
      | done done leaves => cases done
  | succeeds succeeded =>
      cases way with
      | fresh fresh => cases fresh
      | done done leaves => cases done
      | startingPoint down all =>
          refine ⟨down, rfl, ?_, ?_⟩
          · rw [succeeded, List.length_append]
            rfl
          · rw [List.length_append, List.length_singleton]
            omega

theorem UnderWay.atGate {phase : StartPhase} {looping : Bool}
    (way : UnderWay points.length up stand (.start (.waiting phase)) height)
    (atGate : Service.AtGate points stand phase looping) :
    up = false ∧ stand.isOpen = false ∧ looping = true ∧ height = points.length := by
  cases atGate with
  | comes free remains =>
      obtain ⟨down, rfl, rfl, all⟩ := way.remains remains
      exact ⟨down, rfl, rfl, all⟩
  | stays =>
      cases way with
      | fresh fresh => cases fresh
      | done done leaves => cases done
      | gating down => exact ⟨down, rfl, rfl, rfl⟩

theorem UnderWay.starts {phase : StartPhase}
    {progress : Progress (Except ServiceFault Unit) StartPhase}
    (way : UnderWay points.length up stand (.start (.waiting phase)) height)
    (moves : Service.StartMoves points stand phase stand' progress calls) :
    ∃ height', UnderWay points.length up stand' (.start progress) height' ∧
      Shift height (Operation.start progress).place calls height' := by
  cases moves with
  | refused running =>
      cases way with
      | fresh fresh => exact ⟨_, .done rfl rfl, .still⟩
      | done done leaves => cases done
  | starts remains =>
      obtain ⟨down, rfl, rfl, all⟩ := way.remains remains
      exact ⟨_, .startingPoint down (by rw [List.length_cons] at all; omega), .starts⟩
  | fails failed rolls =>
      cases way with
      | fresh fresh => cases fresh
      | done done leaves => cases done
      | startingPoint down all =>
          have back := rolls.underWay down points.length
          rw [List.length_reverse] at back
          rw [failed]
          exact back
  | blocked remains taken rolls =>
      obtain ⟨down, rfl, rfl, all⟩ := way.remains remains
      have back := rolls.underWay down points.length
      rw [List.length_reverse, ← all] at back
      rw [← all]
      exact back
  | gates atGate =>
      obtain ⟨down, shut, rfl, rfl⟩ := way.atGate atGate
      rw [shut]
      exact ⟨_, .gating down, .still⟩
  | opens atGate =>
      obtain ⟨down, shut, rfl, rfl⟩ := way.atGate atGate
      exact ⟨_, .done rfl rfl, .still⟩
  | closes atGate =>
      obtain ⟨down, shut, -, rfl⟩ := way.atGate atGate
      rw [shut]
      exact ⟨_, .takingBackLoop down, .still⟩
  | gaveUp atGate rolls =>
      obtain ⟨-, -, impossible, -⟩ := way.atGate atGate
      cases impossible
  | awaitsLoop => exact ⟨_, way, .still⟩
  | stopsLoop rolls =>
      cases way with
      | fresh fresh => cases fresh
      | done done leaves => cases done
      | takingBackLoop down =>
          have back := rolls.underWay down points.length
          rw [List.length_reverse] at back
          exact back
  | stops rolls =>
      cases way with
      | fresh fresh => cases fresh
      | done done leaves => cases done
      | takingBack down => exact rolls.underWay down points.length

theorem Service.Stops.underWay {progress : Progress Unit StopPhase}
    (stops : Stops points progress calls) (size : Nat) (up : Bool) :
    ∃ height, UnderWay size up ⟨false, false⟩ (.shutdown progress) height ∧
      Shift points.length (Operation.shutdown progress).place calls height := by
  cases stops with
  | ends => exact ⟨_, .done rfl rfl, .still⟩
  | stops => exact ⟨_, .stoppingPoint, .stops⟩

theorem UnderWay.stops {phase : StopPhase} {progress : Progress Unit StopPhase}
    (way : UnderWay points.length up stand (.shutdown (.waiting phase)) height)
    (moves : Service.StopMoves points stand phase stand' progress calls) :
    ∃ height', UnderWay points.length up stand' (.shutdown progress) height' ∧
      (up = true ∨ points = [] →
        Shift height (Operation.shutdown progress).place calls height') := by
  cases moves with
  | drains running =>
      cases way with
      | done done leaves => cases done
      | fresh fresh =>
          have was : up = true := running
          subst was
          exact ⟨_, .draining rfl, fun _ => .still⟩
  | awaitsWorkers => exact ⟨_, way, fun _ => .still⟩
  | dismisses atLoop looped =>
      cases atLoop with
      | comes =>
          cases way with
          | done done leaves => cases done
          | fresh fresh =>
              have was : up = true := looped
              subst was
              exact ⟨_, .stoppingLoop rfl, fun _ => .still⟩
      | drained =>
          cases way with
          | fresh fresh => cases fresh
          | done done leaves => cases done
          | draining was => exact ⟨_, .stoppingLoop was, fun _ => .still⟩
  | skips atLoop free stops =>
      cases atLoop with
      | comes =>
          cases way with
          | done done leaves => cases done
          | fresh fresh =>
              have down : up = false := free
              obtain ⟨height', way', shift⟩ := stops.underWay points.length up
              refine ⟨height', way', ?_⟩
              subst down
              rintro (up | none)
              · cases up
              · subst none
                exact shift
      | drained =>
          cases way with
          | fresh fresh => cases fresh
          | done done leaves => cases done
          | draining was => cases free
  | awaitsLoop => exact ⟨_, way, fun _ => .still⟩
  | stopsLoop stops =>
      cases way with
      | fresh fresh => cases fresh
      | done done leaves => cases done
      | stoppingLoop was =>
          obtain ⟨height', way', shift⟩ := stops.underWay points.length up
          rw [List.length_reverse] at shift
          exact ⟨height', way', fun _ => shift⟩
  | stops stops =>
      cases way with
      | fresh fresh => cases fresh
      | done done leaves => cases done
      | stoppingPoint =>
          obtain ⟨height', way', shift⟩ := stops.underWay points.length up
          exact ⟨height', way', fun _ => shift⟩

/-- A shutdown of a service that is not up stops a point that is down. -/
theorem UnderWay.undue {progress : Progress Unit StopPhase} {log : List Entry} {number : Nat}
    (way : UnderWay points.length false stand (.shutdown (.waiting .fresh)) height)
    (moves : Service.StopMoves points stand .fresh stand' progress calls) (some : points ≠ [])
    (level : Level log height) :
    ¬ Balanced (log ++ entriesOf number (.shutdown progress) calls) := by
  intro balanced
  cases way with
  | done done leaves => cases done
  | fresh fresh =>
      cases moves with
      | drains running => cases running
      | dismisses atLoop looped => cases looped
      | skips atLoop free stops =>
          generalize order : points.reverse = reversed at stops
          cases stops with
          | ends => exact some (List.reverse_eq_nil_iff.mp order)
          | @stops point later =>
              have here := balanced later.length
              have down : upAfter false (callsAt later.length log) = false :=
                (level later.length).trans rfl
              rw [callsAt_append, callsAt_entriesOf, if_pos (by rfl), alternate_append,
                down] at here
              obtain ⟨-, lowers, -⟩ := here
              cases lowers

theorem Operation.isDue_of_up (operation : Operation) : operation.IsDue true := by
  unfold IsDue
  split <;> trivial

theorem Service.Stops.isDue_iff {progress : Progress Unit StopPhase}
    (stops : Stops points progress calls) (up : Bool) :
    (Operation.shutdown progress).IsDue up ↔ up = true := by
  cases stops <;> exact Iff.rfl

/-- Once a shutdown has taken a turn, it was due only if the service was up. -/
theorem Service.StopMoves.isDue_iff {phase : StopPhase} {progress : Progress Unit StopPhase}
    (moves : StopMoves points stand phase stand' progress calls) (up : Bool) :
    (Operation.shutdown progress).IsDue up ↔ up = true := by
  cases moves with
  | skips atLoop free stops => exact stops.isDue_iff up
  | stopsLoop stops => exact stops.isDue_iff up
  | stops stops => exact stops.isDue_iff up
  | _ => exact Iff.rfl

end Turns

/-! ## Whole sequences -/

/-- How things stand after some operations in a row, and up to which height the points are up. -/
inductive StandsAfter (size : Nat) : List Operation → Stand → Nat → Prop where
  | new : StandsAfter size [] ⟨false, false⟩ 0
  | last {before : List Operation} {operation : Operation} {stand : Stand} {height : Nat}
      (done : ∀ other ∈ before, other.isDone = true)
      (way : UnderWay size (isUpAfter before) stand operation height) :
      StandsAfter size (before ++ [operation]) stand height

theorem isUpAfter_append (before : List Operation) (operation : Operation) :
    isUpAfter (before ++ [operation]) = operation.leaves (isUpAfter before) := by
  simp [isUpAfter]

section Sequences

variable {size height : Nat} {stand : Stand} {operations before after : List Operation}
  {operation : Operation}

theorem StandsAfter.settled (stands : StandsAfter size operations stand height)
    (done : ∀ operation ∈ operations, operation.isDone = true) :
    stand = ⟨isUpAfter operations, isUpAfter operations⟩ ∧
      height = fullHeight size (isUpAfter operations) := by
  cases stands with
  | new => exact ⟨rfl, rfl⟩
  | @last before operation _ _ _ way =>
      have last := done operation (List.mem_append_right _ (List.mem_singleton_self _))
      rw [isUpAfter_append]
      cases way with
      | fresh fresh =>
          unfold Operation.isFresh at fresh
          split at fresh
          · cases last
          · cases last
          · cases fresh
      | done done leaves => exact ⟨by rw [leaves], by rw [leaves]⟩
      | _ => cases last

theorem StandsAfter.only (stands : StandsAfter size (before ++ operation :: after) stand height)
    (waits : operation.isDone = false) :
    after = [] ∧ (∀ other ∈ before, other.isDone = true) ∧
      UnderWay size (isUpAfter before) stand operation height := by
  generalize whole : before ++ operation :: after = operations at stands
  cases stands with
  | new => cases List.append_eq_nil_iff.mp whole |>.2
  | @last before' last _ _ done way =>
      rcases List.eq_nil_or_concat after with rfl | ⟨after, end', rfl⟩
      · obtain ⟨rfl, same⟩ := List.append_inj' whole rfl
        cases same
        exact ⟨rfl, done, way⟩
      · rw [List.concat_eq_append, ← List.cons_append, ← List.append_assoc] at whole
        obtain ⟨rfl, -⟩ := List.append_inj' whole rfl
        have ended := done operation (by simp)
        rw [waits] at ended
        cases ended

end Sequences

/-- The points are up to some height, and their calls are balanced exactly if every shutdown was
due. -/
theorem World.Annals.balanced {ids : List String} {stand : Stand} {operations : List Operation}
    {log : List Entry} (annals : Annals OneAtATime ids stand operations log) :
    ∃ height, StandsAfter ids.length operations stand height ∧
      (AllDue operations ∨ ids = [] → Balanced log ∧ Level log height) ∧
      (Balanced log → AllDue operations ∨ ids = []) := by
  induction annals with
  | new =>
      exact ⟨0, .new, fun _ => ⟨fun place => trivial, fun place => rfl⟩, fun _ => .inl allDue_nil⟩
  | @begins _ operations log operation earlier fresh admitted ih =>
      obtain ⟨height, stands, up, down⟩ := ih
      obtain ⟨rfl, rfl⟩ := stands.settled admitted
      have due : operation.IsDue (isUpAfter operations) := by
        unfold Operation.isFresh at fresh
        split at fresh
        · trivial
        · trivial
        · cases fresh
      rw [allDue_append]
      exact ⟨_, .last admitted (.fresh fresh), fun all => up (all.imp_left And.left),
        fun balanced => (down balanced).imp_left fun all => ⟨all, due⟩⟩
  | @starts points stand stand' before after phase progress log calls earlier same moves ih =>
      obtain ⟨height, stands, up, down⟩ := ih
      obtain ⟨rfl, done, way⟩ := stands.only rfl
      rw [← same, List.length_map] at way ⊢
      obtain ⟨height', way', shift⟩ := way.starts moves
      rw [allDue_append] at up down
      rw [allDue_append]
      refine ⟨height', .last done way', ?_, ?_⟩
      · intro all
        obtain ⟨balanced, level⟩ := up (by rw [← same]; exact all)
        exact shift.balanced balanced level
      · intro balanced
        have all := down balanced.earlier
        rw [← same] at all
        exact all
  | @stops points stand stand' before after phase progress log calls earlier same moves ih =>
      obtain ⟨height, stands, up, down⟩ := ih
      obtain ⟨rfl, done, way⟩ := stands.only rfl
      rw [← same, List.length_map] at way ⊢
      obtain ⟨height', way', shift⟩ := way.stops moves
      rw [allDue_append] at up down
      rw [allDue_append, moves.isDue_iff]
      refine ⟨height', .last done way', ?_, ?_⟩
      · rintro (⟨all, was⟩ | none)
        · obtain ⟨balanced, level⟩ := up (.inl ⟨all, was ▸ Operation.isDue_of_up _⟩)
          exact (shift (.inl was)).balanced balanced level
        · obtain ⟨balanced, level⟩ := up (.inr (same ▸ none))
          exact (shift (.inr (List.map_eq_nil_iff.mp none))).balanced balanced level
      · intro balanced
        rcases down balanced.earlier with ⟨all, due⟩ | none
        · cases was : isUpAfter before with
          | true => exact .inl ⟨all, rfl⟩
          | false =>
              by_cases some : points = []
              · exact .inr (by rw [some]; rfl)
              · -- The shutdown was not due, so this is its first turn, and it stops a point.
                rw [was] at way due
                obtain ⟨-, level⟩ := up (.inl ⟨all, was ▸ due⟩)
                cases phase with
                | fresh => exact absurd balanced (way.undue moves some level)
                | _ => cases due
        · exact .inr (same ▸ none)

/-- Starts and shutdowns that follow one another stop each point only when its last start has
succeeded and it was not stopped since, exactly if every shutdown of the service came when it was
up: after a start that succeeded, with no other shutdown in between.  The starts may succeed or fail
in any way. -/
theorem balanced_iff_shutdowns_due {options : ServiceOptions} {world : World}
    {operations : List Operation} {log : List Entry}
    (conduct : World.Conduct options OneAtATime world operations log) :
    log.map Entry.call = governingCalls world.service.calls ∧
    (∀ entry ∈ log, entry.Fits world.pointIds) ∧
    (Balanced log ↔ AllDue operations ∨ world.service.pipeline.points = []) := by
  have annals := conduct.annals
  obtain ⟨height, -, up, down⟩ := annals.balanced
  rw [World.pointIds, List.map_eq_nil_iff] at up down
  exact ⟨conduct.calls, annals.fits.2, down, fun due => (up due).1⟩

namespace SampleSequence

def directory : Point := ⟨"directory", false, .ok (), .ok (), .finish .succeeded⟩

def options : ServiceOptions := { ServiceOptions.default with admission := ⟨1, some 1⟩ }

def beginning : World :=
  .start (.new options (.always (.ok (.new "alpha" "1" .epoch)))
    (fun _ _ => .decided (.new .permit [] none)) [directory] .empty .epoch) .default

theorem beginning_isNew : beginning.IsNew options := ⟨_, _, _, _, _, _, rfl⟩

end SampleSequence

open SampleSequence World in
/-- A service that is started and shut down starts its point once and stops it once. -/
theorem start_and_shutdown_are_balanced :
    ∃ world log,
      Conduct options OneAtATime world [.start (.done (.ok ())), .shutdown (.done ())] log ∧
      log.map Entry.call = [.start directory, .stop directory] ∧ Balanced log := by
  have started : OneAtATime [.start (.done (.ok ()))] (.shutdown (.waiting .fresh)) := by
    intro operation mem
    cases List.mem_singleton.mp mem
    rfl
  have begun : Conduct options OneAtATime _ [.start (.waiting .fresh)] [] :=
    .startBegins (.new beginning_isNew) (by simp [OneAtATime]) (.begins (.starting .fresh) rfl)
  have starts := @Conduct.startGoesOn _ _ _ _ [] [] _ (.waiting (.startingPoint [] directory []))
    _ [.start directory] begun (.turns [] [] _ _ _ rfl rfl) rfl
  have opens := @Conduct.startGoesOn _ _ _ _ [] [] _ (.done (.ok ())) _ [] starts
    (.turns [] [] _ _ _ rfl rfl) rfl
  have joined := opens.meanwhile rfl .joins
  have closing := joined.stopBegins started (.begins (.stopping .fresh) rfl)
  have drains := @Conduct.stopGoesOn _ _ _ _ [.start (.done (.ok ()))] [] _
    (.waiting (.draining 1)) _ [] closing
    (.turns [.loop 0 .fresh, .worker ⟨1, 0⟩ .fresh] [] _ _ _ rfl rfl) rfl
  have worked := drains.meanwhile rfl
    (.turns [.loop 0 .fresh] [.stopping (.draining 1)] (.worker ⟨1, 0⟩ .fresh) _ (.done .ended)
      rfl rfl)
  have drained := @Conduct.stopGoesOn _ _ _ _ [.start (.done (.ok ()))] [] _
    (.waiting (.stoppingLoop 0)) _ [] worked (.turns [.loop 0 .fresh] [] _ _ _ rfl rfl) rfl
  have looped := drained.meanwhile rfl
    (.turns [] [.stopping (.stoppingLoop 0)] (.loop 0 .fresh) _ (.done .ended) rfl rfl)
  have stops := @Conduct.stopGoesOn _ _ _ _ [.start (.done (.ok ()))] [] _
    (.waiting (.stoppingPoint [])) _ [.stop directory] looped (.turns [] [] _ _ _ rfl rfl) rfl
  have ends := @Conduct.stopGoesOn _ _ _ _ [.start (.done (.ok ()))] [] _ (.done ()) _ [] stops
    (.turns [] [] _ _ _ rfl rfl) rfl
  have due : AllDue [.start (.done (.ok ())), .shutdown (.done ())] :=
    (allDue_append [_] _).mpr ⟨(allDue_append [] _).mpr ⟨allDue_nil, trivial⟩, rfl⟩
  obtain ⟨-, -, balanced⟩ := balanced_iff_shutdowns_due ends
  exact ⟨_, _, ends, rfl, balanced.mpr (.inl due)⟩

open SampleSequence World in
/-- A shutdown of a service that was never started stops its point nevertheless. -/
theorem shutdown_stops_point_that_is_down :
    ∃ world log, Conduct options OneAtATime world [.shutdown (.done ())] log ∧
      log.map Entry.call = [.stop directory] ∧ ¬ Balanced log := by
  have begun : Conduct options OneAtATime _ [.shutdown (.waiting .fresh)] [] :=
    .stopBegins (.new beginning_isNew) (by simp [OneAtATime]) (.begins (.stopping .fresh) rfl)
  have stops := @Conduct.stopGoesOn _ _ _ _ [] [] _ (.waiting (.stoppingPoint [])) _
    [.stop directory] begun (.turns [] [] _ _ _ rfl rfl) rfl
  have ends := @Conduct.stopGoesOn _ _ _ _ [] [] _ (.done ()) _ [] stops
    (.turns [] [] _ _ _ rfl rfl) rfl
  refine ⟨_, _, ends, rfl, ?_⟩
  intro balanced
  obtain ⟨lowers, -⟩ := balanced 0
  cases lowers

end DecisionPoint
