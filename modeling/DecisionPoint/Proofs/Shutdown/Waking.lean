import DecisionPoint.Proofs.Shutdown.Traffic

/-!
# Drains are woken

A drain that rests has found a connection open.  As long as it was not told anything since then, one
is open still, or somebody has yet to tell it: that is what every step preserves.  So when the last
connection has closed in time and no other one is tracked, the drain comes to look at the count
again, however the steps of the others lie.
-/

set_option autoImplicit false

namespace DecisionPoint

/-! ## Steps of a drain -/

inductive Drain.Steps (connections : Connections) (now deadline : Nat) :
    DrainStage → Progress Bool Drain → Prop where
  | notes :
      Steps connections now deadline .arriving (.waiting ⟨deadline, .looking connections.told⟩)
  | findsNone (seen : Nat) (none : connections.active = 0) :
      Steps connections now deadline (.looking seen) (.done true)
  | findsSome (seen : Nat) (some : connections.active ≠ 0) :
      Steps connections now deadline (.looking seen) (.waiting ⟨deadline, .resting seen⟩)
  | wakes (seen : Nat) (told : connections.told ≠ seen) :
      Steps connections now deadline (.resting seen) (.waiting ⟨deadline, .arriving⟩)
  | expires (late : deadline ≤ now) :
      Steps connections now deadline (.resting connections.told) (.done false)
  | rests (early : now < deadline) :
      Steps connections now deadline (.resting connections.told)
        (.waiting ⟨deadline, .resting connections.told⟩)

theorem Drain.steps (connections : Connections) (now : Nat) (drain : Drain) :
    Steps connections now drain.deadline drain.stage (drain.step connections now) := by
  obtain ⟨deadline, stage⟩ := drain
  cases stage with
  | arriving => exact .notes
  | looking seen =>
      by_cases none : connections.active = 0
      · simp only [step, if_pos none]
        exact .findsNone seen none
      · simp only [step, if_neg none]
        exact .findsSome seen none
  | resting seen =>
      by_cases same : connections.told = seen
      · subst same
        by_cases late : deadline ≤ now
        · simp only [step, ne_eq, not_true_eq_false, if_false, if_pos late]
          exact .expires late
        · simp only [step, ne_eq, not_true_eq_false, if_false, if_neg late]
          exact .rests (Nat.lt_of_not_le late)
      · simp only [step, if_pos same, ne_eq]
        exact .wakes seen same

namespace Traffic

variable {history : List Incident} {traffic next : Traffic} {incident : Incident} {number : Nat}

/-! ## What a step does to a drain -/

/-- A drain after a step is what it was, or has just begun, or has taken this step. -/
inductive Treats (traffic : Traffic) (number : Nat) (incident : Incident) :
    Option DrainCall → Prop where
  | leaves (aside : incident.isTurnOf number = false) :
      Treats traffic number incident traffic.drains[number]?
  | begins (limit : Nat) (absent : traffic.drains[number]? = none)
      (aside : incident.isTurnOf number = false) :
      Treats traffic number incident
        (some ⟨traffic.now, limit, .waiting (.start limit traffic.now)⟩)
  | turns (call : DrainCall) (drain : Drain) (called : traffic.drains[number]? = some call)
      (waits : call.progress = .waiting drain)
      (own : incident = .turn number drain traffic.connections.active
        (drain.step traffic.connections traffic.now)) :
      Treats traffic number incident
        (some { call with progress := drain.step traffic.connections traffic.now })

theorem Step.treats (step : Step traffic incident next) (number : Nat) :
    Treats traffic number incident next.drains[number]? := by
  cases step with
  | time | clones | tracks | drops | tells => exact .leaves rfl
  | begins handle limit known =>
      rcases Nat.lt_trichotomy number traffic.drains.length with before | same | behind
      · rw [List.getElem?_append_left before]
        exact .leaves rfl
      · subst same
        rw [List.getElem?_concat_length]
        exact .begins limit (List.getElem?_eq_none (Nat.le_refl _)) rfl
      · have absent : traffic.drains[number]? = none := List.getElem?_eq_none (by omega)
        rw [List.getElem?_eq_none (by simp; omega), ← absent]
        exact .leaves rfl
  | turns who call drain progress called waits ran =>
      subst ran
      by_cases same : who = number
      · subst same
        rw [List.getElem?_set_self (List.getElem?_eq_some_iff.mp called).1]
        exact .turns call drain called waits rfl
      · rw [List.getElem?_set_ne same]
        exact .leaves (decide_eq_false same)

/-! ## What a drain that rests relies on -/

/-- Those who wait will be told something: a connection is open, or the last one has just been taken
off the count. -/
def WillTell (traffic : Traffic) : Prop :=
  0 < traffic.connections.active ∨ 0 < traffic.untold

/-- Time goes on, what was told stays told, and what will be told is told some time. -/
structure Advances (before after : Traffic) : Prop where
  now : before.now ≤ after.now
  told : before.connections.told ≤ after.connections.told
  tells : after.connections.told = before.connections.told → before.WillTell → after.WillTell

theorem Step.advances (step : Step traffic incident next) : traffic.Advances next := by
  cases step with
  | time later forward settled => exact ⟨forward, Nat.le_refl _, fun _ tells => tells⟩
  | clones | begins | turns => exact ⟨Nat.le_refl _, Nat.le_refl _, fun _ tells => tells⟩
  | tracks handle known =>
      exact ⟨Nat.le_refl _, Nat.le_refl _, fun _ _ => .inl (Nat.succ_pos _)⟩
  | drops guard rest last alive taken =>
      cases taken
      refine ⟨Nat.le_refl _, Nat.le_refl _, fun _ tells => ?_⟩
      -- Who takes the last connection off the count has to tell so.
      by_cases last : traffic.connections.active = 1
      · right
        simp [last]
      · rcases tells with there | pending
        · left
          exact Nat.sub_pos_of_lt (Nat.lt_of_le_of_ne there (Ne.symm last))
        · right
          exact Nat.add_pos_left pending _
  | tells pending =>
      exact ⟨Nat.le_refl _, Nat.le_succ _, fun same _ => absurd same (Nat.succ_ne_self _)⟩

end Traffic

namespace Drain

/-- What holds of a drain that found this count when it last looked. -/
inductive Stands (traffic : Traffic) (found : Option Nat) (deadline : Nat) :
    Progress Bool Drain → Prop where
  | arriving : Stands traffic found deadline (.waiting ⟨deadline, .arriving⟩)
  | looking (seen : Nat) (noted : seen ≤ traffic.connections.told) :
      Stands traffic found deadline (.waiting ⟨deadline, .looking seen⟩)
  | resting (seen count : Nat) (noted : seen ≤ traffic.connections.told)
      (looked : found = some count) (some : count ≠ 0)
      (awaits : seen = traffic.connections.told → traffic.WillTell) :
      Stands traffic found deadline (.waiting ⟨deadline, .resting seen⟩)
  | closed : Stands traffic found deadline (.done true)
  | late (count : Nat) (elapsed : deadline ≤ traffic.now) (looked : found = some count)
      (some : count ≠ 0) : Stands traffic found deadline (.done false)

variable {traffic next : Traffic} {found : Option Nat} {deadline : Nat}
  {progress : Progress Bool Drain}

theorem Stands.later (stands : Stands traffic found deadline progress)
    (advances : traffic.Advances next) : Stands next found deadline progress := by
  cases stands with
  | arriving => exact .arriving
  | looking seen noted => exact .looking seen (Nat.le_trans noted advances.told)
  | resting seen count noted looked some awaits =>
      refine .resting seen count (Nat.le_trans noted advances.told) looked some ?_
      intro same
      have told : next.connections.told = traffic.connections.told :=
        Nat.le_antisymm (same ▸ noted) advances.told
      exact advances.tells told (awaits (same.trans told))
  | closed => exact .closed
  | late count elapsed looked some =>
      exact .late count (Nat.le_trans elapsed advances.now) looked some

theorem Stands.turn {drain : Drain} (stands : Stands traffic found deadline (.waiting drain))
    {turn : Incident} {number : Nat}
    (own : turn = .turn number drain traffic.connections.active
      (drain.step traffic.connections traffic.now)) :
    Stands traffic ((turn.found? number).or found) deadline
      (drain.step traffic.connections traffic.now) := by
  have steps := drain.steps traffic.connections traffic.now
  generalize drain.step traffic.connections traffic.now = after at steps own ⊢
  cases stands with
  | arriving =>
      cases steps with
      | notes => exact .looking traffic.connections.told (Nat.le_refl _)
  | looking seen noted =>
      cases steps with
      | findsNone _ none => exact .closed
      | findsSome _ some =>
          refine .resting seen traffic.connections.active noted ?_ some ?_
          · simp [own, Incident.found?]
          · exact fun _ => .inl (Nat.pos_of_ne_zero some)
  | resting seen count noted looked some awaits =>
      have unlooked : turn.found? number = none := by
        rw [own]
        rfl
      rw [unlooked, Option.none_or]
      cases steps with
      | wakes _ told => exact .arriving
      | expires late => exact .late count late looked some
      | rests early => exact .resting _ count noted looked some awaits

/-- A drain ends when it finds no connection open, or in spite of what it last found when nothing
was told until its deadline. -/
theorem Stands.ended {drain : Drain} (stands : Stands traffic found deadline (.waiting drain))
    {closed : Bool} (ran : drain.step traffic.connections traffic.now = .done closed) :
    if closed then traffic.connections.active = 0
    else deadline ≤ traffic.now ∧ ∃ count, found = some count ∧ count ≠ 0 := by
  have steps := drain.steps traffic.connections traffic.now
  rw [ran] at steps
  cases stands with
  | arriving => cases steps
  | looking seen noted =>
      cases steps with
      | findsNone _ none => exact none
  | resting seen count noted looked some awaits =>
      cases steps with
      | expires late => exact ⟨late, count, looked, some⟩

end Drain

namespace Traffic

variable {history : List Incident} {traffic : Traffic}

theorem Run.stands (run : Run .start history traffic) {number : Nat} {call : DrainCall}
    (here : traffic.drains[number]? = some call) :
    Drain.Stands traffic (lastFound? number history) (call.began + call.limit) call.progress := by
  induction run generalizing call with
  | start => cases here
  | @step history traffic next incident _ step ih =>
      have treats := step.treats number
      rw [here] at treats
      rw [lastFound?_snoc]
      generalize after : some call = answer at treats
      cases treats with
      | leaves aside =>
          rw [Incident.found?_of_other aside, Option.none_or]
          exact (ih after.symm).later step.advances
      | begins limit absent aside =>
          cases after
          exact .arriving
      | turns earlier drain called waits own =>
          cases after
          have stands := ih called
          rw [waits] at stands
          exact (stands.turn own).later step.advances

end Traffic

/-! ## When the last connection has closed -/

namespace Drain

/-- What holds of a drain that will look at the count again, or has found no connection open. -/
inductive Due (traffic : Traffic) : Progress Bool Drain → Prop where
  | arriving (deadline : Nat) : Due traffic (.waiting ⟨deadline, .arriving⟩)
  | looking (deadline seen : Nat) : Due traffic (.waiting ⟨deadline, .looking seen⟩)
  | woken (deadline seen : Nat) (told : seen < traffic.connections.told) :
      Due traffic (.waiting ⟨deadline, .resting seen⟩)
  | awaiting (deadline : Nat) (pending : 0 < traffic.untold) (early : traffic.now < deadline) :
      Due traffic (.waiting ⟨deadline, .resting traffic.connections.told⟩)
  | closed : Due traffic (.done true)

/-- How many steps of its own a drain that is due is away from its end. -/
def turnsLeft : Progress Bool Drain → Nat
  | .done _ => 0
  | .waiting ⟨_, .looking _⟩ => 1
  | .waiting ⟨_, .arriving⟩ => 2
  | .waiting ⟨_, .resting _⟩ => 3

variable {traffic next : Traffic} {incident : Incident} {progress : Progress Bool Drain}

theorem Stands.due {found : Option Nat} {deadline : Nat}
    (stands : Stands traffic found deadline progress) (nobody : traffic.connections.active = 0)
    (early : traffic.now < deadline) : Due traffic progress := by
  cases stands with
  | arriving => exact .arriving deadline
  | looking seen noted => exact .looking deadline seen
  | resting seen count noted looked some awaits =>
      rcases Nat.lt_or_eq_of_le noted with told | same
      · exact .woken deadline seen told
      · rcases awaits same with someone | pending
        · rw [nobody] at someone
          cases someone
        · subst same
          exact .awaiting deadline pending early
  | closed => exact .closed
  | late count elapsed => exact absurd early (Nat.not_lt.mpr elapsed)

theorem Due.later (due : Due traffic progress) (step : Traffic.Step traffic incident next) :
    Due next progress := by
  cases due with
  | arriving deadline => exact .arriving deadline
  | looking deadline seen => exact .looking deadline seen
  | woken deadline seen told =>
      exact .woken deadline seen (Nat.lt_of_lt_of_le told step.advances.told)
  | closed => exact .closed
  | awaiting deadline pending early =>
      cases step with
      | time later forward settled =>
          -- The clock stands still until the drain is told.
          rw [settled] at pending
          cases pending
      | tells => exact .woken deadline _ (Nat.lt_succ_self _)
      | drops guard rest last alive taken =>
          cases taken
          exact .awaiting deadline (Nat.add_pos_left pending _) early
      | clones | tracks | begins | turns => exact .awaiting deadline pending early

/-- With no connection open, a drain that is due stays so in its own steps, and once everything is
told each of them brings it nearer to its end. -/
theorem Due.turn {drain : Drain} (due : Due traffic (.waiting drain))
    (nobody : traffic.connections.active = 0) :
    Due traffic (drain.step traffic.connections traffic.now) ∧
      (traffic.untold = 0 →
        turnsLeft (drain.step traffic.connections traffic.now) < turnsLeft (.waiting drain)) := by
  have steps := drain.steps traffic.connections traffic.now
  generalize drain.step traffic.connections traffic.now = after at steps ⊢
  cases due with
  | arriving deadline =>
      cases steps with
      | notes => exact ⟨.looking deadline _, fun _ => Nat.lt_succ_self 1⟩
  | looking deadline seen =>
      cases steps with
      | findsNone _ none => exact ⟨.closed, fun _ => Nat.lt_succ_self 0⟩
      | findsSome _ some => exact absurd nobody some
  | woken deadline seen told =>
      cases steps with
      | wakes _ different => exact ⟨.arriving deadline, fun _ => Nat.lt_succ_self 2⟩
      | expires late => exact absurd told (Nat.lt_irrefl _)
      | rests early => exact absurd told (Nat.lt_irrefl _)
  | awaiting deadline pending early =>
      refine ⟨?_, fun settled => absurd settled (Nat.ne_of_gt pending)⟩
      cases steps with
      | wakes _ different => exact absurd rfl different
      | expires late => exact absurd early (Nat.not_lt.mpr late)
      | rests _ => exact .awaiting deadline pending early

theorem Due.ne_late (due : Due traffic progress) : progress ≠ .done false := by
  cases due <;> nofun

theorem Due.closed_of_ended (due : Due traffic progress) (ended : turnsLeft progress = 0) :
    progress = .done true := by
  cases due with
  | closed => rfl
  | _ => cases ended

theorem turnsLeft_le (progress : Progress Bool Drain) : turnsLeft progress ≤ 3 := by
  unfold turnsLeft
  split <;> decide

/-- As many steps as are left bring a drain to its end, if nobody comes in between. -/
theorem Due.run {drain : Drain} (due : Due traffic (.waiting drain))
    (nobody : traffic.connections.active = 0) (settled : traffic.untold = 0) {steps : Nat}
    (enough : turnsLeft (.waiting drain) ≤ steps) :
    drain.run traffic.connections traffic.now steps = .done true := by
  induction steps generalizing drain with
  | zero => cases due.closed_of_ended (Nat.le_zero.mp enough)
  | succ steps ih =>
      obtain ⟨still, nearer⟩ := due.turn nobody
      have left := Nat.le_of_lt_succ (Nat.lt_of_lt_of_le (nearer settled) enough)
      rw [Drain.run]
      cases after : drain.step traffic.connections traffic.now with
      | done closed =>
          rw [after] at still
          cases still
          rfl
      | waiting later =>
          rw [after] at still left
          exact ih still left

end Drain

namespace Traffic

variable {later : List Incident} {traffic next reached : Traffic} {incident : Incident}
  {number : Nat}

/-- A drain that is under way, if it has begun, will look at the count again or has found no
connection open. -/
def IsDue (traffic : Traffic) (number : Nat) : Prop :=
  ∀ call, traffic.drains[number]? = some call → Drain.Due traffic call.progress

def turnsLeft (traffic : Traffic) (number : Nat) : Nat :=
  traffic.drains[number]?.elim 3 fun call => Drain.turnsLeft call.progress

/-- No connection is open, and if none is tracked it stays so. -/
theorem Step.nobody (step : Step traffic incident next) (quiet : incident.isTracking = false)
    (nobody : traffic.connections.active = 0) : next.connections.active = 0 := by
  cases step with
  | time | clones | begins | turns | tells => exact nobody
  | tracks => cases quiet
  | drops guard rest last alive taken =>
      cases taken
      exact congrArg (· - 1) nobody

theorem Step.settled (step : Step traffic incident next) (nobody : traffic.connections.active = 0)
    (settled : traffic.untold = 0) : next.untold = 0 := by
  cases step with
  | time | clones | tracks | begins | turns => exact settled
  | drops guard rest last alive taken =>
      cases taken
      simp [nobody, settled]
  | tells pending => exact absurd settled (Nat.ne_of_gt pending)

theorem Step.isDue (step : Step traffic incident next) (nobody : traffic.connections.active = 0)
    (due : traffic.IsDue number) : next.IsDue number := by
  intro call here
  have treats := step.treats number
  rw [here] at treats
  generalize after : some call = answer at treats
  cases treats with
  | leaves aside => exact (due call after.symm).later step
  | begins limit absent aside =>
      cases after
      exact .arriving _
  | turns earlier drain called waits own =>
      cases after
      have before := due earlier called
      rw [waits] at before
      exact (before.turn nobody).1.later step

theorem Step.nearer (step : Step traffic incident next) (nobody : traffic.connections.active = 0)
    (settled : traffic.untold = 0) (due : traffic.IsDue number) :
    next.turnsLeft number + (incident.isTurnOf number).toNat ≤ traffic.turnsLeft number := by
  have treats := step.treats number
  unfold turnsLeft
  generalize next.drains[number]? = after at treats ⊢
  cases treats with
  | leaves aside =>
      rw [aside]
      exact Nat.le_refl _
  | begins limit absent aside =>
      rw [aside, absent]
      exact Nat.le_succ 2
  | turns earlier drain called waits own =>
      have before := due earlier called
      rw [waits] at before
      have fewer := (before.turn nobody).2 settled
      have one : incident.isTurnOf number = true := by
        rw [own]
        exact decide_eq_true rfl
      rw [one, called, Option.elim_some, Option.elim_some, waits]
      exact fewer

theorem Run.isDue (run : Run traffic later reached)
    (quiet : ∀ incident ∈ later, incident.isTracking = false)
    (nobody : traffic.connections.active = 0) (due : traffic.IsDue number) :
    reached.connections.active = 0 ∧ reached.IsDue number := by
  induction run with
  | start => exact ⟨nobody, due⟩
  | @step history before after incident _ step ih =>
      have silent := quiet incident (by simp)
      obtain ⟨still, dueStill⟩ := ih fun other mem => quiet other (List.mem_append_left _ mem)
      exact ⟨step.nobody silent still, step.isDue still dueStill⟩

theorem Run.nearer (run : Run traffic later reached)
    (quiet : ∀ incident ∈ later, incident.isTracking = false)
    (nobody : traffic.connections.active = 0) (settled : traffic.untold = 0)
    (due : traffic.IsDue number) :
    reached.untold = 0 ∧
      reached.turnsLeft number + later.countP (·.isTurnOf number) ≤ traffic.turnsLeft number := by
  induction run with
  | start => exact ⟨settled, Nat.le_refl _⟩
  | @step history before after incident earlier step ih =>
      have silent : ∀ other ∈ history, other.isTracking = false :=
        fun other mem => quiet other (List.mem_append_left _ mem)
      obtain ⟨still, left⟩ := ih silent
      obtain ⟨empty, dueStill⟩ := earlier.isDue silent nobody due
      have fewer := step.nearer empty still dueStill
      refine ⟨step.settled empty still, ?_⟩
      rw [List.countP_append, List.countP_singleton]
      cases own : incident.isTurnOf number <;> simp [own] at fewer ⊢ <;> omega

/-- A drain returns that all connections have closed, as soon as it gets to: it has not returned
anything else; once everything is told, a poll makes it return; and so do three steps of its own, if
no connection is tracked meanwhile, whatever happens between them. -/
structure Concludes (traffic : Traffic) (number : Nat) : Prop where
  notLate : ∀ call, traffic.drains[number]? = some call → call.progress ≠ .done false
  polled : ∀ call drain, traffic.drains[number]? = some call → call.progress = .waiting drain →
    traffic.untold = 0 → drain.poll traffic.connections traffic.now = .done true
  returns : traffic.untold = 0 → ∀ later reached, Run traffic later reached →
    (∀ guard, .tracked guard ∉ later) → 3 ≤ later.countP (·.isTurnOf number) →
      ∃ call, reached.drains[number]? = some call ∧ call.progress = .done true

theorem quiet_of_untracked (untracked : ∀ guard, .tracked guard ∉ later) :
    ∀ incident ∈ later, incident.isTracking = false := by
  intro incident mem
  cases incident with
  | tracked guard => exact absurd mem (untracked guard)
  | _ => rfl

theorem IsDue.concludes (due : traffic.IsDue number) (nobody : traffic.connections.active = 0) :
    traffic.Concludes number where
  notLate call here := (due call here).ne_late
  polled call drain here waits settled := by
    have before := due call here
    rw [waits] at before
    have enough := Nat.le_trans (Drain.turnsLeft_le (.waiting drain)) (by decide : 3 ≤ 5)
    exact before.run nobody settled enough
  returns settled later reached run untracked turns := by
    have quiet := quiet_of_untracked untracked
    obtain ⟨-, dueStill⟩ := run.isDue quiet nobody due
    obtain ⟨-, left⟩ := run.nearer quiet nobody settled due
    have most : traffic.turnsLeft number ≤ 3 := by
      unfold turnsLeft
      cases traffic.drains[number]? with
      | none => exact Nat.le_refl 3
      | some call => exact Drain.turnsLeft_le _
    have none : reached.turnsLeft number = 0 := by omega
    unfold turnsLeft at none
    cases here : reached.drains[number]? with
    | none => simp [here] at none
    | some call =>
        rw [here] at none
        exact ⟨call, rfl, (dueStill call here).closed_of_ended none⟩

/-- A drain whose limit has not elapsed, if it has begun at all. -/
def InTime (traffic : Traffic) (number : Nat) : Prop :=
  ∀ call, traffic.drains[number]? = some call → traffic.now < call.began + call.limit

/-- No drain misses that the last connection has closed.  In whatever order connections are tracked,
guards are dropped, handles are cloned and any number of drains take their steps, the count is that
of the guards which are alive; a drain returns true only while the count is zero, and false only
when its limit has elapsed and the count was not zero when it last looked; and if the count is zero
before the limit of a drain has elapsed and no connection is tracked from then on, that drain
returns true.  Dropping a guard takes no time: others may come between taking it off the count and
telling so, but the clock stands still. -/
theorem drains_miss_no_closing (history : List Incident) (traffic : Traffic)
    (run : Run .start history traffic) :
    (traffic.connections.active = traffic.guards.length ∧ traffic.guards.Nodup ∧
      ∀ guard,
        guard ∈ traffic.guards ↔ .tracked guard ∈ history ∧ .dropped guard ∉ history) ∧
    (∀ number drain active closed next,
      Step traffic (.turn number drain active (.done closed)) next →
        if closed then traffic.connections.active = 0
        else
          (∀ call, traffic.drains[number]? = some call →
            call.began + call.limit ≤ traffic.now) ∧
          ∃ count, lastFound? number history = some count ∧ count ≠ 0) ∧
    (traffic.connections.active = 0 → ∀ number, traffic.InTime number →
      ∀ later reached, Run traffic later reached → (∀ guard, .tracked guard ∉ later) →
        reached.Concludes number) := by
  refine ⟨⟨run.counts.active, run.counts.distinct, run.counts.alive⟩, ?_, ?_⟩
  · intro number drain active closed next step
    cases step with
    | turns _ call _ _ called waits ran =>
        have stands := run.stands called
        rw [waits] at stands
        have ended := stands.ended ran
        cases closed with
        | true => exact ended
        | false =>
            obtain ⟨late, found⟩ := ended
            refine ⟨fun other here => ?_, found⟩
            rw [called] at here
            cases here
            exact late
  · intro nobody number inTime later reached goesOn untracked
    have due : traffic.IsDue number :=
      fun call here => (run.stands here).due nobody (inTime call here)
    obtain ⟨still, dueStill⟩ := goesOn.isDue (quiet_of_untracked untracked) nobody due
    exact dueStill.concludes still

/-- The last connection has closed for the second time while a drain rests, with both closings yet
to be told. -/
def closedTwice : Traffic := ⟨0, ⟨0, 0⟩, 1, [], 2, 2, [⟨0, 5, .waiting ⟨5, .resting 0⟩⟩]⟩

/-- The count falls to zero before the drain has looked at it, rises again, and falls to zero while
the drain rests.  The drain gets to its steps only when its limit has elapsed, and returns true. -/
theorem drain_hears_of_second_closing :
    ∃ history, Run .start history closedTwice ∧ closedTwice.connections.active = 0 ∧
      ∃ later late, Run closedTwice later late ∧ late.now = 9 ∧
        Drain.poll ⟨5, .resting 0⟩ late.connections late.now = .done true ∧
          ∃ turns reached, Run late turns reached ∧
            ∃ call, reached.drains[0]? = some call ∧ call.progress = .done true := by
  have arrived : Run .start _ ⟨0, ⟨1, 0⟩, 1, [0], 1, 0, [⟨0, 5, .waiting ⟨5, .arriving⟩⟩]⟩ :=
    .step (.step .start (.tracks 0 Nat.one_pos)) (.begins 0 5 Nat.one_pos)
  have noted : Run .start _ ⟨0, ⟨1, 0⟩, 1, [0], 1, 0, [⟨0, 5, .waiting ⟨5, .looking 0⟩⟩]⟩ :=
    .step arrived (.turns 0 ⟨0, 5, .waiting ⟨5, .arriving⟩⟩ _ (.waiting _) rfl rfl rfl)
  have again : Run .start _ ⟨0, ⟨1, 0⟩, 1, [1], 2, 1, [⟨0, 5, .waiting ⟨5, .looking 0⟩⟩]⟩ :=
    .step (.step noted (.drops 0 ⟨0, 0⟩ true (List.mem_singleton_self 0) rfl))
      (.tracks 0 Nat.one_pos)
  have rested : Run .start _ ⟨0, ⟨1, 0⟩, 1, [1], 2, 1, [⟨0, 5, .waiting ⟨5, .resting 0⟩⟩]⟩ :=
    .step again (.turns 0 ⟨0, 5, .waiting ⟨5, .looking 0⟩⟩ _ (.waiting _) rfl rfl rfl)
  have closed : Run .start _ closedTwice :=
    .step rested (.drops 1 ⟨0, 0⟩ true (List.mem_singleton_self 1) rfl)
  obtain ⟨-, -, wakes⟩ := drains_miss_no_closing _ _ closed
  have inTime : closedTwice.InTime 0 := by
    intro call here
    cases here
    decide
  have late : Run closedTwice _ ⟨9, ⟨0, 2⟩, 1, [], 2, 0, [⟨0, 5, .waiting ⟨5, .resting 0⟩⟩]⟩ :=
    .step (.step (.step .start (.tells Nat.two_pos)) (.tells Nat.one_pos))
      (.time 9 (Nat.zero_le 9) rfl)
  have concludes := wakes rfl 0 inTime _ _ late (by simp)
  have turned : Run ⟨9, ⟨0, 2⟩, 1, [], 2, 0, [⟨0, 5, .waiting ⟨5, .resting 0⟩⟩]⟩ _
      ⟨9, ⟨0, 2⟩, 1, [], 2, 0, [⟨0, 5, .done true⟩]⟩ :=
    .step (.step (.step .start
      (.turns 0 ⟨0, 5, .waiting ⟨5, .resting 0⟩⟩ _ (.waiting ⟨5, .arriving⟩) rfl rfl rfl))
      (.turns 0 ⟨0, 5, .waiting ⟨5, .arriving⟩⟩ _ (.waiting ⟨5, .looking 2⟩) rfl rfl rfl))
      (.turns 0 ⟨0, 5, .waiting ⟨5, .looking 2⟩⟩ _ (.done true) rfl rfl rfl)
  have returns := concludes.returns rfl _ _ turned (by simp) (by decide)
  exact ⟨_, closed, rfl, _, _, late, rfl, concludes.polled _ _ rfl rfl rfl, _, _, turned, returns⟩

end Traffic

end DecisionPoint
