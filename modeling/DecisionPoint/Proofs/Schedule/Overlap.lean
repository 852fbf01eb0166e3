import DecisionPoint.Proofs.Schedule.Sequence

/-!
# Starts that overlap

Any number of starts of one service may be under way at the same time.  Whoever starts the
background loop first goes on to open admission, and nobody else does.  A start that finds the loop
taken has started every point by then, and stops every point again, although the first one has them
in use.
-/

set_option autoImplicit false

namespace DecisionPoint

def OnlyStarts (_ : List Operation) (operation : Operation) : Prop :=
  operation = .start (.waiting .fresh)

/-! ## The entries of one start -/

def entriesBy (number : Nat) (log : List Entry) : List Entry :=
  log.filter fun entry => entry.operation = number

def Entry.move (entry : Entry) : Nat × Bool := (entry.place, entry.call.lowers)

/-- The points at the first places are started, in order. -/
def startsBelow (high : Nat) : List (Nat × Bool) := (List.range high).map (·, false)

/-- The points at some places are stopped, last first. -/
def stopsBetween (low high : Nat) : List (Nat × Bool) :=
  (List.range' low (high - low)).reverse.map (·, true)

theorem startsBelow_succ (high : Nat) :
    startsBelow (high + 1) = startsBelow high ++ [(high, false)] := by
  simp [startsBelow, List.range_succ]

theorem stopsBetween_self (high : Nat) : stopsBetween high high = [] := by
  simp [stopsBetween]

theorem stopsBetween_step {low high : Nat} (fewer : low < high) :
    stopsBetween (low + 1) high ++ [(low, true)] = stopsBetween low high := by
  obtain ⟨count, rfl⟩ := Nat.exists_eq_add_of_lt fewer
  have size : low + count + 1 - low = count + 1 := by omega
  have size' : low + count + 1 - (low + 1) = count := by omega
  rw [stopsBetween, stopsBetween, size, size', List.range'_succ, List.reverse_cons, List.map_append]
  rfl

/-- A start has started all points, and none has failed. -/
structure StartedAll (size : Nat) (own : List Entry) : Prop where
  moves : own.map Entry.move = startsBelow size
  raised : ∀ entry ∈ own, entry.call.raises = true

/-- A start that found the loop taken has started all points and stops them again. -/
def TakesBack (size height : Nat) (fault : ServiceFault) (own : List Entry) : Prop :=
  ∀ component, fault = .alreadyRunning component →
    component = "policy refresh task" ∧
      own.map Entry.move = startsBelow size ++ stopsBetween height size

/-- The entries of a start, by what it has come to. -/
inductive Made (size : Nat) :
    Progress (Except ServiceFault Unit) StartPhase → List Entry → Prop where
  | fresh : Made size (.waiting .fresh) []
  | startingPoint {started later : List Point} {point : Point} {own : List Entry} {number : Nat}
      (before : StartedAll started.length own) (all : started.length + later.length + 1 = size) :
      Made size (.waiting (.startingPoint started point later))
        (own ++ [⟨number, started.length, .start point⟩])
  | gating {gate : GatePhase} {own : List Entry} (all : StartedAll size own) :
      Made size (.waiting (.gating gate)) own
  | stoppingLoop {number : Nat} {message : String} {own : List Entry} :
      Made size (.waiting (.stoppingLoop number (.config message))) own
  | stoppingPoint {later : List Point} {fault : ServiceFault} {own : List Entry}
      (fewer : later.length < size) (back : TakesBack size later.length fault own) :
      Made size (.waiting (.stoppingPoint later fault)) own
  | refused : Made size (.done (.error (.alreadyRunning "policy decision point"))) []
  | failed {fault : ServiceFault} {own : List Entry} (back : TakesBack size 0 fault own) :
      Made size (.done (.error fault)) own
  | opened {own : List Entry} (all : StartedAll size own) : Made size (.done (.ok ())) own

section Turns

variable {points : List Point} {size number : Nat} {stand stand' : Stand} {calls : List Call}
  {own : List Entry}

theorem Service.RollsBack.made {fault : ServiceFault}
    {progress : Progress (Except ServiceFault Unit) StartPhase}
    (rolls : RollsBack fault points progress calls) (within : points.length ≤ size)
    (back : TakesBack size points.length fault own) :
    Made size progress (own ++ entriesOf number (.start progress) calls) := by
  cases rolls with
  | ends =>
      rw [entriesOf, List.map_nil, List.append_nil]
      exact .failed back
  | @stops point later =>
      refine .stoppingPoint within ?_
      intro component same
      obtain ⟨taken, moves⟩ := back component same
      refine ⟨taken, ?_⟩
      rw [List.map_append, moves, ← stopsBetween_step within, List.append_assoc]
      rfl

/-- A start that goes on with the points that are left has started the others. -/
theorem Made.remains {phase : StartPhase} {started later : List Point}
    (made : Made points.length (.waiting phase) own)
    (remains : Service.Remains points stand phase started later) :
    StartedAll started.length own ∧ started.length + later.length = points.length := by
  cases remains with
  | begins shut =>
      cases made with
      | fresh => exact ⟨⟨rfl, by simp⟩, Nat.zero_add _⟩
  | @succeeds started later point succeeded =>
      cases made with
      | startingPoint before all =>
          rw [List.length_append, List.length_singleton]
          refine ⟨⟨?_, ?_⟩, by omega⟩
          · rw [List.map_append, before.moves, startsBelow_succ]
            rfl
          · intro entry mem
            rcases List.mem_append.mp mem with old | new
            · exact before.raised entry old
            · cases List.mem_singleton.mp new
              simp only [Call.raises, succeeded]
              rfl

theorem Made.atGate {phase : StartPhase} {looping : Bool}
    (made : Made points.length (.waiting phase) own)
    (atGate : Service.AtGate points stand phase looping) : StartedAll points.length own := by
  cases atGate with
  | comes free remains =>
      obtain ⟨before, all⟩ := made.remains remains
      rwa [← all]
  | stays =>
      cases made with
      | gating all => exact all

theorem Made.starts {phase : StartPhase}
    {progress : Progress (Except ServiceFault Unit) StartPhase}
    (made : Made points.length (.waiting phase) own)
    (moves : Service.StartMoves points stand phase stand' progress calls) :
    Made points.length progress (own ++ entriesOf number (.start progress) calls) := by
  have reversed : points.reverse.length = points.length := List.length_reverse
  have still : entriesOf number (.start progress) [] = [] := rfl
  cases moves with
  | refused running =>
      cases made with
      | fresh => exact .refused
  | starts remains =>
      obtain ⟨before, all⟩ := made.remains remains
      exact .startingPoint before (by rw [List.length_cons] at all; omega)
  | @fails started later point fault _ _ failed rolls =>
      cases made with
      | startingPoint before all =>
          refine rolls.made (by rw [List.length_reverse]; omega) ?_
          intro component same
          cases same
  | blocked remains taken rolls =>
      obtain ⟨before, all⟩ := made.remains remains
      refine rolls.made (Nat.le_of_eq reversed) ?_
      intro component same
      refine ⟨(taken component same).1, ?_⟩
      rw [reversed, stopsBetween_self, List.append_nil, before.moves, ← all]
      rfl
  | gates atGate =>
      rw [still, List.append_nil]
      exact .gating (made.atGate atGate)
  | opens atGate =>
      rw [still, List.append_nil]
      exact .opened (made.atGate atGate)
  | closes atGate => exact .stoppingLoop
  | gaveUp atGate rolls =>
      refine rolls.made (Nat.le_of_eq reversed) ?_
      intro component same
      cases same
  | awaitsLoop =>
      rw [still, List.append_nil]
      exact made
  | stopsLoop rolls =>
      cases made with
      | stoppingLoop =>
          refine rolls.made (Nat.le_of_eq reversed) ?_
          intro component same
          cases same
  | stops rolls =>
      cases made with
      | stoppingPoint fewer back => exact rolls.made (Nat.le_of_lt fewer) back

end Turns

theorem getElem?_replaced (before after : List Operation) (old new : Operation) (number : Nat) :
    (before ++ new :: after)[number]? =
      if number = before.length then some new else (before ++ old :: after)[number]? := by
  have set : (before ++ old :: after).set before.length new = before ++ new :: after := by simp
  rw [← set, List.getElem?_set]
  by_cases same : before.length = number
  · subst same
    simp
  · rw [if_neg same, if_neg (Ne.symm same)]

theorem entriesBy_append (number : Nat) (log more : List Entry) :
    entriesBy number (log ++ more) = entriesBy number log ++ entriesBy number more :=
  List.filter_append _ _

theorem entriesBy_entriesOf (number other : Nat) (operation : Operation) (calls : List Call) :
    entriesBy number (entriesOf other operation calls) =
      if number = other then entriesOf other operation calls else [] := by
  unfold entriesBy entriesOf
  split
  · next same => simp [same]
  · next different => simp [Ne.symm different]

/-- Every start has made the calls that what it has come to tells. -/
structure Accounted (size : Nat) (operations : List Operation) (log : List Entry) : Prop where
  starts : ∀ operation ∈ operations, ∃ progress, operation = .start progress
  made : ∀ number progress, operations[number]? = some (.start progress) →
    Made size progress (entriesBy number log)
  numbers : ∀ entry ∈ log, entry.operation < operations.length

theorem World.Annals.accounted {ids : List String} {stand : Stand} {operations : List Operation}
    {log : List Entry} (annals : Annals OnlyStarts ids stand operations log) :
    Accounted ids.length operations log := by
  induction annals with
  | new => exact ⟨by simp, by simp, by simp⟩
  | @begins _ operations log operation earlier fresh admitted ih =>
      cases admitted
      refine ⟨?_, ?_, ?_⟩
      · intro operation mem
        rcases List.mem_append.mp mem with old | new
        · exact ih.starts operation old
        · cases List.mem_singleton.mp new
          exact ⟨_, rfl⟩
      · intro number progress found
        rcases Nat.lt_trichotomy number operations.length with old | new | beyond
        · rw [List.getElem?_append_left old] at found
          exact ih.made number progress found
        · subst new
          rw [List.getElem?_append_right (Nat.le_refl _), Nat.sub_self] at found
          cases found
          -- The operation is new, so no entry has its number.
          have none : entriesBy operations.length log = [] := by
            rw [entriesBy, List.filter_eq_nil_iff]
            intro entry mem same
            simp only [decide_eq_true_eq] at same
            exact absurd (ih.numbers entry mem) (by omega)
          rw [none]
          exact .fresh
        · rw [List.getElem?_eq_none (by simp; omega)] at found
          cases found
      · intro entry mem
        rw [List.length_append]
        exact Nat.lt_of_lt_of_le (ih.numbers entry mem) (Nat.le_add_right _ _)
  | @starts points stand stand' before after phase progress log calls earlier same moves ih =>
      refine ⟨?_, ?_, ?_⟩
      · intro operation mem
        rcases List.mem_append.mp mem with left | mem
        · exact ih.starts operation (List.mem_append_left _ left)
        · rcases List.mem_cons.mp mem with rfl | right
          · exact ⟨_, rfl⟩
          · exact ih.starts operation (List.mem_append_right _ (List.mem_cons_of_mem _ right))
      · intro number progress' found
        rw [getElem?_replaced before after (.start (.waiting phase))] at found
        rw [entriesBy_append, entriesBy_entriesOf]
        split at found
        · next own =>
            cases found
            rw [if_pos own]
            have made := ih.made number (.waiting phase) (by simp [own])
            rw [← same, List.length_map] at made ⊢
            exact made.starts moves
        · next other =>
            rw [if_neg other, List.append_nil]
            exact ih.made number progress' found
      · intro entry mem
        have size : (before ++ Operation.start progress :: after).length =
            (before ++ Operation.start (.waiting phase) :: after).length := by simp
        rw [size]
        rcases List.mem_append.mp mem with old | new
        · exact ih.numbers entry old
        · obtain ⟨call, -, rfl⟩ := List.mem_map.mp new
          simp
  | stops earlier same moves ih =>
      -- There are no shutdowns among the operations.
      obtain ⟨progress, same⟩ := ih.starts _ (List.mem_append_right _ List.mem_cons_self)
      cases same

/-! ## One start has the loop -/

namespace Operation

def hasOpened : Operation → Bool
  | start (.done (.ok ())) => true
  | _ => false

def hasLoop : Operation → Bool
  | start (.waiting (.gating _)) => true
  | operation => operation.hasOpened

theorem hasLoop_of_hasOpened (operation : Operation) (opened : operation.hasOpened = true) :
    operation.hasLoop = true := by
  unfold hasLoop
  split
  · rfl
  · exact opened

end Operation

/-- How many starts have the loop and how many have opened admission. -/
structure Counted (stand : Stand) (operations : List Operation) : Prop where
  loop : operations.countP Operation.hasLoop = stand.looping.toNat
  opened : operations.countP Operation.hasOpened = stand.isOpen.toNat

section Counts

variable {points : List Point} {stand stand' : Stand} {calls : List Call}
  {before after : List Operation}

theorem counted_iff (operation : Operation) :
    Counted stand (before ++ operation :: after) ↔
      before.countP Operation.hasLoop + after.countP Operation.hasLoop + operation.hasLoop.toNat =
        stand.looping.toNat ∧
      before.countP Operation.hasOpened + after.countP Operation.hasOpened +
        operation.hasOpened.toNat = stand.isOpen.toNat := by
  have split (holds : Operation → Bool) : (before ++ operation :: after).countP holds =
      before.countP holds + after.countP holds + (holds operation).toNat := by
    rw [List.countP_append, List.countP_cons]
    cases holds operation <;> simp [Nat.add_assoc]
  constructor
  · rintro ⟨loop, opened⟩
    rw [split] at loop opened
    exact ⟨loop, opened⟩
  · rintro ⟨loop, opened⟩
    exact ⟨by rw [split]; exact loop, by rw [split]; exact opened⟩

theorem Service.RollsBack.counts {fault : ServiceFault}
    {progress : Progress (Except ServiceFault Unit) StartPhase}
    (rolls : RollsBack fault points progress calls) :
    (Operation.start progress).hasLoop = false ∧ (Operation.start progress).hasOpened = false := by
  cases rolls <;> exact ⟨rfl, rfl⟩

theorem Service.AtGate.looping {phase : StartPhase} {looping : Bool}
    (atGate : AtGate points stand phase looping) :
    (stand.looping = false ∧ looping = true ∧
        (Operation.start (.waiting phase)).hasLoop = false) ∨
      (stand.looping = looping ∧ (Operation.start (.waiting phase)).hasLoop = true) := by
  cases atGate with
  | comes free remains =>
      refine .inl ⟨free, rfl, ?_⟩
      cases remains <;> rfl
  | stays => exact .inr ⟨rfl, rfl⟩

theorem Counted.starts {phase : StartPhase}
    {progress : Progress (Except ServiceFault Unit) StartPhase}
    (counted : Counted stand (before ++ .start (.waiting phase) :: after))
    (moves : Service.StartMoves points stand phase stand' progress calls) :
    Counted stand' (before ++ .start progress :: after) := by
  -- Nobody has opened admission without having the loop.
  have fewer : before.countP Operation.hasOpened + after.countP Operation.hasOpened ≤
      before.countP Operation.hasLoop + after.countP Operation.hasLoop :=
    Nat.add_le_add (List.countP_mono_left fun operation _ => operation.hasLoop_of_hasOpened)
      (List.countP_mono_left fun operation _ => operation.hasLoop_of_hasOpened)
  rw [counted_iff] at counted ⊢
  obtain ⟨loop, opened⟩ := counted
  generalize before.countP Operation.hasLoop + after.countP Operation.hasLoop = loops
    at fewer loop ⊢
  generalize before.countP Operation.hasOpened + after.countP Operation.hasOpened = openings
    at fewer opened ⊢
  have closed : openings = stand.isOpen.toNat := opened
  cases moves with
  | refused running => exact ⟨loop, opened⟩
  | starts remains => cases remains <;> exact ⟨loop, opened⟩
  | fails failed rolls =>
      obtain ⟨noLoop, notOpened⟩ := rolls.counts
      rw [noLoop, notOpened]
      exact ⟨loop, opened⟩
  | blocked remains taken rolls =>
      obtain ⟨noLoop, notOpened⟩ := rolls.counts
      rw [noLoop, notOpened]
      cases remains <;> exact ⟨loop, opened⟩
  | gates atGate =>
      rcases atGate.looping with ⟨free, rfl, noLoop⟩ | ⟨rfl, hasLoop⟩
      · rw [free, noLoop] at loop
        exact ⟨congrArg (· + 1) loop, opened⟩
      · rw [hasLoop] at loop
        exact ⟨loop, opened⟩
  | opens atGate =>
      rcases atGate.looping with ⟨free, rfl, noLoop⟩ | ⟨rfl, hasLoop⟩
      · rw [free, noLoop] at loop
        have alone : loops = 0 := loop
        have none : openings = 0 := Nat.le_zero.mp (alone ▸ fewer)
        exact ⟨congrArg (· + 1) loop, congrArg (· + 1) none⟩
      · rw [hasLoop] at loop
        have alone : loops = 0 := by
          have atMost := Bool.toNat_le stand.looping
          rw [← loop] at atMost
          exact Nat.le_zero.mp (Nat.le_of_succ_le_succ atMost)
        have none : openings = 0 := Nat.le_zero.mp (alone ▸ fewer)
        exact ⟨loop, congrArg (· + 1) none⟩
  | closes atGate =>
      rcases atGate.looping with ⟨free, -, noLoop⟩ | ⟨looping, hasLoop⟩
      · rw [free, noLoop] at loop
        exact ⟨loop, opened⟩
      · rw [looping, hasLoop] at loop
        exact ⟨Nat.succ.inj loop, opened⟩
  | gaveUp atGate rolls =>
      rcases atGate.looping with ⟨-, impossible, -⟩ | ⟨looping, hasLoop⟩
      · cases impossible
      · rw [looping, hasLoop] at loop
        cases loop
  | awaitsLoop => exact ⟨loop, opened⟩
  | stopsLoop rolls =>
      obtain ⟨noLoop, notOpened⟩ := rolls.counts
      rw [noLoop, notOpened]
      exact ⟨loop, opened⟩
  | stops rolls =>
      obtain ⟨noLoop, notOpened⟩ := rolls.counts
      rw [noLoop, notOpened]
      exact ⟨loop, opened⟩

end Counts

/-- At most one start has the loop, and it is the only one that opens admission. -/
theorem World.Annals.counted {ids : List String} {stand : Stand} {operations : List Operation}
    {log : List Entry} (annals : Annals OnlyStarts ids stand operations log) :
    Counted stand operations := by
  induction annals with
  | new => exact ⟨rfl, rfl⟩
  | begins earlier fresh admitted ih =>
      cases admitted
      obtain ⟨loop, opened⟩ := ih
      exact ⟨by rw [List.countP_append, loop]; rfl, by rw [List.countP_append, opened]; rfl⟩
  | starts earlier same moves ih => exact ih.starts moves
  | stops earlier same moves ih =>
      obtain ⟨progress, same⟩ :=
        earlier.accounted.starts _ (List.mem_append_right _ List.mem_cons_self)
      cases same

theorem hasOpened_iff (operation : Operation) :
    operation.hasOpened = true ↔ operation = .start (.done (.ok ())) := by
  unfold Operation.hasOpened
  split <;> simp_all

/-- The service runs exactly if a start has succeeded. -/
theorem Counted.running {stand : Stand} {operations : List Operation}
    (counted : Counted stand operations) :
    stand.isOpen = true ↔ ∃ number : Nat, operations[number]? = some (.start (.done (.ok ()))) := by
  have positive : stand.isOpen = true ↔ 0 < operations.countP Operation.hasOpened := by
    rw [counted.opened]
    cases stand.isOpen <;> simp
  rw [positive, List.countP_pos_iff]
  constructor
  · rintro ⟨operation, mem, opened⟩
    rw [(hasOpened_iff operation).mp opened] at mem
    exact List.mem_iff_getElem?.mp mem
  · rintro ⟨number, found⟩
    exact ⟨_, List.mem_of_getElem? found, rfl⟩

theorem Counted.unique {stand : Stand} {operations : List Operation}
    (counted : Counted stand operations) {number other : Nat}
    (found : operations[number]? = some (.start (.done (.ok ()))))
    (found' : operations[other]? = some (.start (.done (.ok ())))) : other = number := by
  obtain ⟨bound, here⟩ := List.getElem?_eq_some_iff.mp found
  generalize whole : operations = whole at counted
  rw [← List.take_append_drop number operations, List.drop_eq_getElem_cons bound, here] at whole
  subst whole
  obtain ⟨-, opened⟩ := (counted_iff _).mp counted
  -- It is counted once, so nothing is left for the others.
  have alone := Bool.toNat_le stand.isOpen
  rw [← opened] at alone
  have none : (operations.take number).countP Operation.hasOpened = 0 ∧
      (operations.drop (number + 1)).countP Operation.hasOpened = 0 := by
    have one : (Operation.start (.done (.ok ()))).hasOpened.toNat = 1 := rfl
    omega
  rw [List.countP_eq_zero, List.countP_eq_zero] at none
  by_contra different
  rcases Nat.lt_or_gt_of_ne different with before | after
  · refine none.1 (.start (.done (.ok ()))) (List.mem_of_getElem? (i := other) ?_) rfl
    rw [List.getElem?_take_of_lt before, found']
  · refine none.2 (.start (.done (.ok ())))
      (List.mem_of_getElem? (i := other - (number + 1)) ?_) rfl
    rw [List.getElem?_drop, Nat.add_sub_cancel' after, found']

/-! ## Points in use -/

/-- A start of the point at a place has succeeded, and whatever stop of it came later is one of
these. -/
def UpBut (spared : Entry → Prop) (place : Nat) (log : List Entry) : Prop :=
  ∃ earlier entry later, log = earlier ++ entry :: later ∧ entry.place = place ∧
    entry.call.raises = true ∧
    ∀ other ∈ later, other.place = place → other.call.lowers = true → spared other

theorem StartedAll.up {size number place : Nat} {log : List Entry}
    (all : StartedAll size (entriesBy number log)) (within : place < size) :
    UpBut (fun stop => stop.operation ≠ number) place log := by
  have started : (place, false) ∈ (entriesBy number log).map Entry.move := by
    rw [all.moves]
    exact List.mem_map.mpr ⟨place, List.mem_range.mpr within, rfl⟩
  obtain ⟨entry, own, moved⟩ := List.mem_map.mp started
  obtain ⟨earlier, later, split⟩ := List.append_of_mem (List.mem_filter.mp own).1
  refine ⟨earlier, entry, later, split, congrArg Prod.fst moved, all.raised entry own, ?_⟩
  rintro other after - lowers rfl
  have own' : other ∈ entriesBy other.operation log := by
    refine List.mem_filter.mpr ⟨?_, decide_eq_true rfl⟩
    rw [split]
    exact List.mem_append_right _ (List.mem_cons_of_mem _ after)
  have moved' := List.mem_map_of_mem (f := Entry.move) own'
  rw [all.moves] at moved'
  obtain ⟨place', -, same⟩ := List.mem_map.mp moved'
  have still : false = other.call.lowers := congrArg Prod.snd same
  rw [lowers] at still
  cases still

/-- Of any number of starts that overlap, with no shutdown, exactly one has succeeded when the
service runs.  It has started every point, and only other starts may have stopped points since.  A
start that comes back because the service runs already has called no point.  One that comes back
because the loop runs already has started every point, and has stopped every point again, last
first. -/
theorem overlapping_starts {options : ServiceOptions} {world : World}
    {operations : List Operation} {log : List Entry}
    (conduct : World.Conduct options OnlyStarts world operations log) :
    log.map Entry.call = governingCalls world.service.calls ∧
    (∀ entry ∈ log, entry.Fits world.pointIds) ∧
    (∀ number component,
      operations[number]? = some (.start (.done (.error (.alreadyRunning component)))) →
        component = "policy decision point" ∧ entriesBy number log = [] ∨
        component = "policy refresh task" ∧
          (entriesBy number log).map Entry.move =
            startsBelow world.pointIds.length ++ stopsBetween 0 world.pointIds.length) ∧
    (world.service.isRunning = true ↔
      ∃ number : Nat, operations[number]? = some (.start (.done (.ok ())))) ∧
    ∀ number, operations[number]? = some (.start (.done (.ok ()))) →
      (∀ other, operations[other]? = some (.start (.done (.ok ()))) → other = number) ∧
      (entriesBy number log).map Entry.move = startsBelow world.pointIds.length ∧
      ∀ place < world.pointIds.length, UpBut (fun stop => stop.operation ≠ number) place log := by
  have annals := conduct.annals
  have accounted := annals.accounted
  have counted := annals.counted
  refine ⟨conduct.calls, annals.fits.2, ?_, counted.running, ?_⟩
  · intro number component found
    have made := accounted.made number _ found
    generalize entriesBy number log = own at made ⊢
    cases made with
    | refused => exact .inl ⟨rfl, rfl⟩
    | failed back => exact .inr (back component rfl)
  · intro number found
    have made := accounted.made number _ found
    generalize listed : entriesBy number log = own at made ⊢
    cases made with
    | opened all =>
        refine ⟨fun other found' => counted.unique found found', all.moves, ?_⟩
        intro place within
        exact (listed ▸ all).up within

namespace SampleOverlap

def directory : Point := ⟨"directory", false, .ok (), .ok (), .finish .succeeded⟩

def beginning : World :=
  .start (.new .default (.always (.ok (.new "alpha" "1" .epoch)))
    (fun _ _ => .decided (.new .permit [] none)) [directory] .empty .epoch) .default

/-- The first start opens the service while the second one has started the point as well. -/
def outcomes : List Operation :=
  [.start (.done (.ok ())), .start (.done (.error (.alreadyRunning "policy refresh task")))]

def calls : List Entry :=
  [⟨0, 0, .start directory⟩, ⟨1, 0, .start directory⟩, ⟨1, 0, .stop directory⟩]

open World in
theorem comesAbout :
    ∃ world, Conduct .default OnlyStarts world outcomes calls ∧
      world.service.isRunning = true := by
  have new : beginning.IsNew .default := ⟨_, _, _, _, _, _, rfl⟩
  have first : Conduct .default OnlyStarts _ [.start (.waiting .fresh)] [] :=
    .startBegins (.new new) rfl (.begins (.starting .fresh) rfl)
  have started := @Conduct.startGoesOn _ _ _ _ [] [] _ (.waiting (.startingPoint [] directory []))
    _ [.start directory] first (.turns [] [] _ _ _ rfl rfl) rfl
  have second := started.startBegins rfl (.begins (.starting .fresh) rfl)
  have started' := @Conduct.startGoesOn _ _ _ _ [.start (.waiting (.startingPoint [] directory []))]
    [] _ (.waiting (.startingPoint [] directory [])) _ [.start directory] second
    (.turns [.starting (.startingPoint [] directory [])] [] _ _ _ rfl rfl) rfl
  have opened := @Conduct.startGoesOn _ _ _ _ []
    [.start (.waiting (.startingPoint [] directory []))] _ (.done (.ok ())) _ [] started'
    (.turns [] [.starting (.startingPoint [] directory [])] _ _ _ rfl rfl) rfl
  have stops := @Conduct.startGoesOn _ _ _ _ [.start (.done (.ok ()))] [] _
    (.waiting (.stoppingPoint [] (.alreadyRunning "policy refresh task"))) _ [.stop directory]
    opened (.turns [] [] _ _ _ rfl rfl) rfl
  have ends := @Conduct.startGoesOn _ _ _ _ [.start (.done (.ok ()))] [] _
    (.done (.error (.alreadyRunning "policy refresh task"))) _ [] stops
    (.turns [] [] _ _ _ rfl rfl) rfl
  exact ⟨_, ends, rfl⟩

end SampleOverlap

open SampleOverlap in
/-- The start that came second finds the loop taken: it has started and stopped the point. -/
theorem second_start_takes_back :
    ∃ world, World.Conduct .default OnlyStarts world outcomes calls ∧
      (entriesBy 1 calls).map Entry.move = [(0, false), (0, true)] ∧
      UpBut (fun stop => stop.operation ≠ 0) 0 calls := by
  obtain ⟨world, conduct, -⟩ := comesAbout
  obtain ⟨-, -, -, -, succeeded⟩ := overlapping_starts conduct
  obtain ⟨-, moves, up⟩ := succeeded 0 rfl
  have size : 0 < world.pointIds.length := by
    have lengths := congrArg List.length moves
    rw [startsBelow, List.length_map, List.length_map, List.length_range] at lengths
    rw [← lengths]
    exact Nat.succ_pos _
  exact ⟨world, conduct, rfl, up 0 size⟩

open SampleOverlap in
/-- The service runs, and its point is stopped: the start that came second has stopped it. -/
theorem second_start_stops_point_in_use :
    ∃ world, World.Conduct .default OnlyStarts world outcomes calls ∧
      world.service.isRunning = true ∧
      outcomes[1]? = some (.start (.done (.error (.alreadyRunning "policy refresh task")))) ∧
      (∃ entry ∈ entriesBy 1 calls, entry.call = .stop directory) ∧
      ¬ UpBut (fun _ => False) 0 calls := by
  obtain ⟨world, conduct, running⟩ := comesAbout
  refine ⟨world, conduct, running, rfl, ⟨_, .tail _ (.head _), rfl⟩, ?_⟩
  rintro ⟨earlier, entry, later, split, -, raises, spared⟩
  have last : calls = [⟨0, 0, .start directory⟩, ⟨1, 0, .start directory⟩] ++
      [⟨1, 0, .stop directory⟩] := rfl
  rw [last] at split
  rcases List.eq_nil_or_concat later with rfl | ⟨later, end', rfl⟩
  · obtain ⟨-, same⟩ := List.append_inj' split rfl
    cases same
    cases raises
  · rw [List.concat_eq_append, ← List.cons_append, ← List.append_assoc] at split
    obtain ⟨-, same⟩ := List.append_inj' split rfl
    cases same
    exact spared ⟨1, 0, .stop directory⟩ (by simp) rfl rfl

end DecisionPoint
