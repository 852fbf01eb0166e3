import Mathlib.Data.ENat.Basic
import DecisionPoint.Proofs.Policy.Attempts
import DecisionPoint.Proofs.Policy.Drives
import DecisionPoint.Proofs.Policy.Keeping

/-!
# What the gate does

`PolicyCache.tellTurn` runs the gate and gives an account of it: its attempts, what comes of them,
its pauses, and what it returns.  Nobody but the gate decides about this, so whatever others do
there are no more attempts than were granted, and none while there is a policy.  If nobody else
touches the cache, the account is the one that `GateCourse.course` writes down from what the source
does with its calls.
-/

set_option autoImplicit false

namespace DecisionPoint

inductive GateMove where
  /-- It attempts a refresh, with `found` in effect.  There is a fetch unless it is turned away. -/
  | attempts (found : Option PolicySnapshot) (fetch : Option FetchWait)
  | hears (answer : Fetched)
  | timesOut (limit : Span)
  | pauses (millis : Nat)
  | returns (ready : Bool)

namespace GateMove

def isAttempt : GateMove → Bool
  | attempts _ _ => true
  | _ => false

def isCall : GateMove → Bool
  | attempts _ (some _) => true
  | _ => false

def isPause : GateMove → Bool
  | pauses _ => true
  | _ => false

end GateMove

abbrev GateAccount : Type := List (Nat × GateMove)

namespace GateAccount

/-- How many things of a kind were done. -/
def tally (kind : GateMove → Bool) (account : GateAccount) : Nat :=
  account.countP fun move => kind move.2

abbrev attempts (account : GateAccount) : Nat := tally GateMove.isAttempt account

abbrev calls (account : GateAccount) : Nat := tally GateMove.isCall account

abbrev pauses (account : GateAccount) : Nat := tally GateMove.isPause account

def stamped (now : Nat) (moves : List GateMove) : GateAccount := moves.map (now, ·)

variable (kind : GateMove → Bool) (now : Nat)

@[simp] theorem tally_nil : tally kind [] = 0 := rfl

theorem tally_cons (time : Nat) (move : GateMove) (account : GateAccount) :
    tally kind ((time, move) :: account) = (kind move).toNat + tally kind account := by
  rw [tally, List.countP_cons, Nat.add_comm]
  cases kind move <;> rfl

@[simp] theorem tally_append (first second : GateAccount) :
    tally kind (first ++ second) = tally kind first + tally kind second :=
  List.countP_append

theorem tally_stamped (moves : List GateMove) :
    tally kind (stamped now moves) = moves.countP kind := by
  rw [tally, stamped, List.countP_map]
  rfl

@[simp] theorem stamped_nil : stamped now [] = [] := rfl

@[simp] theorem stamped_cons (move : GateMove) (moves : List GateMove) :
    stamped now (move :: moves) = (now, move) :: stamped now moves := rfl

@[simp] theorem stamped_append (first second : List GateMove) :
    stamped now (first ++ second) = stamped now first ++ stamped now second :=
  List.map_append

end GateAccount

abbrev GateTelling : Type := List GateMove × PolicyCache.GateRun

namespace PolicyCache

section Telling

variable (cache : PolicyCache) (journal : Journal) (now backoff : Nat)

def heard (wait : FetchWait) : List GateMove :=
  if hasCome now wait.answersAt then [.hears cache.source.answer.2]
  else if hasCome now wait.deadline then [.timesOut wait.limit]
  else []

def attempted : List GateMove :=
  if cache.refreshing then [.attempts cache.current none]
  else .attempts cache.current (some (cache.fetchFrom now)) :: cache.heard now (cache.fetchFrom now)

/-- After an attempt; `rest` is what the gate does when it goes on. -/
def tellAfter (remaining : Nat) (outcome : RefreshOutcome) (rest : GateTelling) : GateTelling :=
  if outcome.succeeded then ([.returns cache.isReady], cache, journal, .done cache.isReady)
  else if cache.isReady = false ∧ 0 < backoff then
    ([.pauses backoff], cache, journal, .waiting (.pausing remaining (now + backoff)))
  else ((if cache.isReady then [] else [.pauses backoff]) ++ rest.1, rest.2)

def tellGate (cache : PolicyCache) (journal : Journal) (now backoff : Nat) : Nat → GateTelling
  | 0 => ([.returns cache.isReady], cache, journal, .done cache.isReady)
  | remaining + 1 =>
    if cache.isReady then ([.returns true], cache, journal, .done true)
    else
      match cache.refresh journal now with
      | (cache', journal', .waiting wait) =>
        (cache.attempted now, cache', journal', .waiting (.fetching remaining wait))
      | (cache', journal', .done outcome) =>
        let after := cache'.tellAfter journal' now backoff remaining outcome
          (tellGate cache' journal' now backoff remaining)
        (cache.attempted now ++ after.1, after.2)

/-- A turn of a gate that may make `retries` attempts, with what it does. -/
def tellTurn (retries : Nat) : Option GatePhase → GateTelling
  | none => cache.tellGate journal now backoff retries
  | some (.fetching remaining wait) =>
    match cache.resume journal now wait with
    | (cache', journal', .waiting wait') =>
      ([], cache', journal', .waiting (.fetching remaining wait'))
    | (cache', journal', .done outcome) =>
      let after := cache'.tellAfter journal' now backoff remaining outcome
        (cache'.tellGate journal' now backoff remaining)
      (cache.heard now wait ++ after.1, after.2)
  | some (.pausing remaining time) =>
    if time ≤ now then cache.tellGate journal now backoff remaining
    else ([], cache, journal, .waiting (.pausing remaining time))

def gateTurn (retries : Nat) : Option GatePhase → GateRun
  | none => cache.gate journal now backoff retries
  | some phase => cache.resumeGate journal now backoff phase

theorem tellGate_run (remaining : Nat) :
    (cache.tellGate journal now backoff remaining).2 =
      cache.gate journal now backoff remaining := by
  induction remaining generalizing cache journal with
  | zero => rfl
  | succ remaining ih =>
      unfold tellGate gate
      split
      · rfl
      · generalize cache.refresh journal now = ran
        obtain ⟨cache', journal', progress⟩ := ran
        cases progress with
        | waiting wait => rfl
        | done outcome =>
            simp only [tellAfter, ← ih]
            split
            · rfl
            · split <;> rfl

theorem tellAfter_run (remaining : Nat) (outcome : RefreshOutcome) :
    (cache.tellAfter journal now backoff remaining outcome
      (cache.tellGate journal now backoff remaining)).2 =
      cache.gateAfter journal now backoff remaining outcome := by
  simp only [tellAfter, gateAfter, ← tellGate_run]
  split
  · rfl
  · split <;> rfl

theorem tellTurn_run (retries : Nat) (phase : Option GatePhase) :
    (cache.tellTurn journal now backoff retries phase).2 =
      cache.gateTurn journal now backoff retries phase := by
  cases phase with
  | none => exact cache.tellGate_run journal now backoff retries
  | some phase =>
      cases phase with
      | fetching remaining wait =>
          simp only [tellTurn, gateTurn, resumeGate]
          generalize cache.resume journal now wait = ran
          obtain ⟨cache', journal', progress⟩ := ran
          cases progress with
          | waiting wait' => rfl
          | done outcome => exact cache'.tellAfter_run journal' now backoff remaining outcome
      | pausing remaining time =>
          simp only [tellTurn, gateTurn, resumeGate, ← tellGate_run]
          split <;> rfl

theorem heard_of_waiting {cache' : PolicyCache} {journal' : Journal} {wait wait' : FetchWait}
    (ran : cache.resume journal now wait = (cache', journal', .waiting wait')) :
    cache.heard now wait = [] := by
  have early := (resume_waiting ran).2
  rw [FetchWait.wake, hasCome_earlier, Bool.or_eq_false_iff] at early
  simp [heard, early]

/-- An attempt is a call, and what is done once it goes on. -/
theorem tellGate_acquires {remaining : Nat} (retries : Nat) (unready : cache.isReady = false)
    (free : cache.refreshing = false) :
    let fetch := cache.fetchFrom now
    let turn := tellTurn { cache with refreshing := true } journal now backoff retries
      (some (.fetching remaining fetch))
    cache.tellGate journal now backoff (remaining + 1) =
      (.attempts cache.current (some fetch) :: turn.1, turn.2) := by
  have acquires : cache.acquire = some { cache with refreshing := true } := by
    simp [acquire, free]
  simp only [tellGate, tellTurn, unready, attempted, free, refresh, acquires, Bool.false_eq_true,
    if_false]
  have heard : heard { cache with refreshing := true } now = cache.heard now := rfl
  have fetches : fetchFrom { cache with refreshing := true } now = cache.fetchFrom now := rfl
  rw [heard, fetches]
  generalize resumed : resume { cache with refreshing := true } journal now (cache.fetchFrom now) =
    ran
  obtain ⟨cache', journal', progress⟩ := ran
  cases progress with
  | waiting wait =>
      have nothing := heard_of_waiting _ _ _ resumed
      rw [heard] at nothing
      rw [nothing]
  | done outcome => rfl

end Telling

end PolicyCache

/-! ## The refreshes of the account -/

def GateMove.event? : GateMove → Option RefreshEvent
  | attempts _ none => some .refused
  | attempts _ (some _) => some .begun
  | hears fetched => some (.ofFetched fetched)
  | timesOut limit => some (.failed (.timeout limit))
  | pauses _ | returns _ => none

def GateTelling.Drives (holds : Bool) (before : CacheState) (telling : GateTelling) : Prop :=
  DecisionPoint.Drives holds before (telling.1.filterMap GateMove.event?)
    (telling.2.2.2.holds GatePhase.isFetching) (telling.2.1, telling.2.2.1)

namespace PolicyCache

section Drives

variable (cache : PolicyCache) (journal : Journal) (now backoff : Nat)

theorem resume_tells (wait : FetchWait) :
    Drives true (cache, journal) ((cache.heard now wait).filterMap GateMove.event?)
      ((cache.resume journal now wait).2.2.holds fun _ => true)
      ((cache.resume journal now wait).1, (cache.resume journal now wait).2.1) := by
  unfold heard resume
  by_cases answers : hasCome now wait.answersAt = true
  · rw [if_pos answers, if_pos answers]
    exact .answered
  · rw [if_neg answers, if_neg answers]
    by_cases late : hasCome now wait.deadline = true
    · rw [if_pos late, if_pos late]
      exact .timedOut wait.limit
    · rw [if_neg late, if_neg late]
      exact .rests (.refl _)

theorem refresh_tells :
    Drives false (cache, journal) ((cache.attempted now).filterMap GateMove.event?)
      ((cache.refresh journal now).2.2.holds fun _ => true)
      ((cache.refresh journal now).1, (cache.refresh journal now).2.1) := by
  cases taken : cache.refreshing with
  | true =>
      have free : cache.acquire = none := by simp [acquire, taken]
      simp only [attempted, taken, refresh, free, if_true]
      exact .refused free
  | false =>
      have free : cache.acquire = some { cache with refreshing := true } := by
        simp [acquire, taken]
      simp only [attempted, taken, refresh, free, Bool.false_eq_true, if_false]
      exact (Drives.begins free).followed
        (resume_tells { cache with refreshing := true } journal now (cache.fetchFrom now))

theorem tellAfter_drives (remaining : Nat) (outcome : RefreshOutcome) {rest : GateTelling}
    (drives : rest.Drives false (cache, journal)) :
    (cache.tellAfter journal now backoff remaining outcome rest).Drives false (cache, journal) := by
  unfold tellAfter
  split
  · exact .rests (.refl _)
  · split
    · exact .rests (.refl _)
    · split <;> exact drives

theorem tellGate_drives (granted : Nat) :
    (cache.tellGate journal now backoff granted).Drives false (cache, journal) := by
  induction granted generalizing cache journal with
  | zero => exact .rests (.refl _)
  | succ remaining ih =>
      unfold tellGate
      split
      · exact .rests (.refl _)
      · have attempt := cache.refresh_tells journal now
        generalize cache.refresh journal now = ran at attempt ⊢
        obtain ⟨cache', journal', progress⟩ := ran
        cases progress with
        | waiting wait => exact attempt
        | done outcome =>
            have rest := cache'.tellAfter_drives journal' now backoff remaining outcome
              (ih cache' journal')
            simp only [GateTelling.Drives, List.filterMap_append]
            exact attempt.followed rest

/-- The source is called, answers and runs out of time as the account of the turn tells. -/
theorem tellTurn_drives (retries : Nat) (phase : Option GatePhase) :
    (cache.tellTurn journal now backoff retries phase).Drives
      (phase.elim false GatePhase.isFetching) (cache, journal) := by
  cases phase with
  | none => exact cache.tellGate_drives journal now backoff retries
  | some phase =>
      cases phase with
      | fetching remaining wait =>
          have attempt := cache.resume_tells journal now wait
          simp only [tellTurn]
          generalize resumed : cache.resume journal now wait = ran at attempt ⊢
          obtain ⟨cache', journal', progress⟩ := ran
          cases progress with
          | waiting wait' =>
              obtain ⟨rfl, early⟩ := resume_waiting resumed
              rw [cache.resume_early journal early] at resumed
              cases resumed
              exact .rests (.refl _)
          | done outcome =>
              have rest := cache'.tellAfter_drives journal' now backoff remaining outcome
                (cache'.tellGate_drives journal' now backoff remaining)
              simp only [GateTelling.Drives, List.filterMap_append]
              exact attempt.followed rest
      | pausing remaining time =>
          simp only [tellTurn]
          split
          · exact cache.tellGate_drives journal now backoff remaining
          · exact .rests (.refl _)

end Drives

end PolicyCache

/-! ## Whatever others do -/

def Progress.attemptsLeft : Progress Bool GatePhase → Nat
  | done _ => 0
  | waiting phase => phase.remaining

/-- The gate makes no more attempts than it may, each while there is no policy, and what it returns
is whether there is one. -/
structure GateTelling.Honest (telling : GateTelling) (granted : Nat) : Prop where
  counted : telling.1.countP GateMove.isAttempt + telling.2.2.2.attemptsLeft ≤ granted
  empty : ∀ found fetch, .attempts found fetch ∈ telling.1 → found = none
  returned : ∀ value, telling.2.2.2 = .done value → telling.2.1.isReady = value

namespace PolicyCache

section Honest

variable (cache : PolicyCache) (journal : Journal) (now backoff : Nat)

theorem heard_others (wait : FetchWait) :
    ∀ move ∈ cache.heard now wait, move.isAttempt = false ∧ move.isPause = false := by
  intro move mem
  unfold heard at mem
  split at mem
  · cases List.mem_singleton.mp mem
    exact ⟨rfl, rfl⟩
  · split at mem
    · cases List.mem_singleton.mp mem
      exact ⟨rfl, rfl⟩
    · cases mem

theorem heard_attempts (wait : FetchWait) :
    (cache.heard now wait).countP GateMove.isAttempt = 0 := by
  rw [List.countP_eq_zero]
  intro move mem
  simp [(cache.heard_others now wait move mem).1]

theorem attempted_attempts : (cache.attempted now).countP GateMove.isAttempt = 1 := by
  unfold attempted
  split
  · rfl
  · rw [List.countP_cons, heard_attempts]
    rfl

theorem attempted_found {found : Option PolicySnapshot} {fetch : Option FetchWait}
    (mem : .attempts found fetch ∈ cache.attempted now) : found = cache.current := by
  unfold attempted at mem
  split at mem
  · cases List.mem_singleton.mp mem
    rfl
  · rcases List.mem_cons.mp mem with same | later
    · cases same
      rfl
    · cases (cache.heard_others now _ _ later).1

theorem tellAfter_honest {remaining : Nat} (outcome : RefreshOutcome) {rest : GateTelling}
    (honest : rest.Honest remaining) :
    (cache.tellAfter journal now backoff remaining outcome rest).Honest remaining := by
  unfold tellAfter
  split
  · refine ⟨Nat.zero_le _, ?_, ?_⟩
    · simp
    · intro value same
      exact Progress.done.inj same
  · split
    · refine ⟨?_, by simp, nofun⟩
      simp [GateMove.isAttempt, Progress.attemptsLeft, GatePhase.remaining]
    · refine ⟨?_, ?_, honest.returned⟩
      · have counted := honest.counted
        split <;> simpa [GateMove.isAttempt] using counted
      · intro found fetch mem
        refine honest.empty found fetch ?_
        split at mem <;> simpa using mem

theorem tellGate_honest (granted : Nat) :
    (cache.tellGate journal now backoff granted).Honest granted := by
  induction granted generalizing cache journal with
  | zero =>
      refine ⟨Nat.le_refl _, by simp [tellGate], ?_⟩
      intro value same
      exact Progress.done.inj same
  | succ remaining ih =>
      unfold tellGate
      split
      · next ready =>
          refine ⟨Nat.zero_le _, by simp, ?_⟩
          intro value same
          rw [← Progress.done.inj same]
          exact ready
      · next unready =>
          have empty : cache.current = none := by simpa [isReady] using unready
          have attempted := cache.attempted_attempts now
          split
          · next cache' journal' wait ran =>
              refine ⟨?_, ?_, nofun⟩
              · simp only [attempted, Progress.attemptsLeft, GatePhase.remaining]
                omega
              · intro found fetch mem
                exact (cache.attempted_found now mem).trans empty
          · next cache' journal' outcome ran =>
              have rest := cache'.tellAfter_honest journal' now backoff outcome
                (ih cache' journal')
              refine ⟨?_, ?_, rest.returned⟩
              · have counted := rest.counted
                simp only [List.countP_append, attempted]
                omega
              · intro found fetch mem
                rcases List.mem_append.mp mem with now' | later
                · exact (cache.attempted_found now now').trans empty
                · exact rest.empty found fetch later

theorem tellTurn_honest (retries : Nat) (phase : Option GatePhase) :
    (cache.tellTurn journal now backoff retries phase).Honest
      (phase.elim retries GatePhase.remaining) := by
  cases phase with
  | none => exact cache.tellGate_honest journal now backoff retries
  | some phase =>
      cases phase with
      | fetching remaining wait =>
          simp only [tellTurn, Option.elim_some, GatePhase.remaining]
          split
          · next cache' journal' wait' ran =>
              exact ⟨by simp [Progress.attemptsLeft, GatePhase.remaining], by simp, nofun⟩
          · next cache' journal' outcome ran =>
              have rest := cache'.tellAfter_honest journal' now backoff outcome
                (cache'.tellGate_honest journal' now backoff remaining)
              refine ⟨?_, ?_, rest.returned⟩
              · simpa [cache.heard_attempts now wait] using rest.counted
              · intro found fetch mem
                rcases List.mem_append.mp mem with ended | later
                · cases (cache.heard_others now wait _ ended).1
                · exact rest.empty found fetch later
      | pausing remaining time =>
          simp only [tellTurn, Option.elim_some, GatePhase.remaining]
          split
          · exact cache.tellGate_honest journal now backoff remaining
          · exact ⟨by simp [Progress.attemptsLeft, GatePhase.remaining], by simp, nofun⟩

/-! ## A policy that is there -/

theorem tellGate_ready (ready : cache.isReady = true) (granted : Nat) :
    cache.tellGate journal now backoff granted = ([.returns true], cache, journal, .done true) := by
  cases granted with
  | zero => rw [tellGate, ready]
  | succ remaining => rw [tellGate, if_pos ready]

theorem tellAfter_ready (ready : cache.isReady = true) (remaining : Nat)
    (outcome : RefreshOutcome) :
    cache.tellAfter journal now backoff remaining outcome
      (cache.tellGate journal now backoff remaining) =
      ([.returns true], cache, journal, .done true) := by
  rw [tellGate_ready cache journal now backoff ready]
  simp [tellAfter, ready]

end Honest

end PolicyCache

/-- A policy that is there stays, though it may be replaced. -/
theorem Drives.ready {holds holds' : Bool} {before after : CacheState}
    {events : List RefreshEvent} (drives : Drives holds before events holds' after)
    (ready : before.1.isReady = true) : after.1.isReady = true := by
  have concluded (cache : PolicyCache) (journal : Journal) (fetched : Fetched)
      (ready : cache.isReady = true) : (cache.concluded journal fetched).1.isReady = true := by
    cases fetched with
    | ok snapshot => rfl
    | error fault => exact ready
  induction drives with
  | rests untouched =>
      rw [PolicyCache.isReady, untouched.current]
      exact ready
  | refused taken => exact ready
  | begins free =>
      simp only [PolicyCache.acquire, Option.ite_none_left_eq_some, Option.some.injEq] at free
      obtain ⟨-, rfl⟩ := free
      exact ready
  | answered => exact concluded _ _ _ ready
  | timedOut limit => exact concluded _ _ _ ready
  | brokenOff => exact ready
  | followed _ _ ih ih' => exact ih' (ih ready)

namespace PolicyCache

/-- A gate that finds a policy makes no attempt and no pause. -/
theorem tellTurn_ready (cache : PolicyCache) (journal : Journal) (now backoff retries : Nat)
    (phase : Option GatePhase) (ready : cache.isReady = true) :
    ∀ move ∈ (cache.tellTurn journal now backoff retries phase).1,
      move.isAttempt = false ∧ move.isPause = false := by
  intro move mem
  cases phase with
  | none =>
      rw [tellTurn, cache.tellGate_ready journal now backoff ready] at mem
      cases List.mem_singleton.mp mem
      exact ⟨rfl, rfl⟩
  | some phase =>
      cases phase with
      | fetching remaining wait =>
          have drives := cache.resume_drives journal now wait
          simp only [tellTurn] at mem
          generalize cache.resume journal now wait = ran at drives mem
          obtain ⟨cache', journal', progress⟩ := ran
          obtain ⟨events, drives⟩ := drives
          cases progress with
          | waiting wait' => cases mem
          | done outcome =>
              simp only [cache'.tellAfter_ready journal' now backoff (drives.ready ready)] at mem
              rcases List.mem_append.mp mem with ended | last
              · exact cache.heard_others now wait move ended
              · cases List.mem_singleton.mp last
                exact ⟨rfl, rfl⟩
      | pausing remaining time =>
          simp only [tellTurn] at mem
          split at mem
          · rw [cache.tellGate_ready journal now backoff ready] at mem
            cases List.mem_singleton.mp mem
            exact ⟨rfl, rfl⟩
          · cases mem

end PolicyCache

/-! ## Waiting -/

def GatePhase.wakeOf (now : Nat) (phase : Option GatePhase) : Option Nat :=
  phase.elim (some now) GatePhase.wake

namespace PolicyCache

variable {cache : PolicyCache} {journal : Journal} {now backoff retries : Nat}
  {phase : Option GatePhase} {later : GatePhase}

theorem gateTurn_wakes (wakes : ∀ waits, phase = some waits → waits.wake.isSome = true)
    (waits : (cache.gateTurn journal now backoff retries phase).2.2 = .waiting later) :
    later.wake.isSome = true := by
  cases phase with
  | none =>
      obtain ⟨made, tries⟩ := cache.gate_tries journal now backoff retries
      have told := tries.tells (fun outcome same => by cases same)
      rw [gateTurn] at waits
      generalize cache.gate journal now backoff retries = run at told waits
      obtain ⟨cache', journal', progress⟩ := run
      cases waits
      exact told.2
  | some phase =>
      obtain ⟨made, resumes⟩ := cache.resumeGate_resumes journal now backoff phase
      have told := resumes.tells (wakes phase rfl)
      rw [gateTurn] at waits
      generalize cache.resumeGate journal now backoff phase = run at told waits
      obtain ⟨cache', journal', progress⟩ := run
      cases waits
      exact told.2

theorem gateTurn_options (cache : PolicyCache) (journal : Journal) (now backoff retries : Nat)
    (phase : Option GatePhase) :
    (cache.gateTurn journal now backoff retries phase).1.options = cache.options := by
  cases phase with
  | none => exact (cache.gate_steady journal now backoff retries).options
  | some phase => exact (cache.resumeGate_steady journal now backoff phase).options

theorem gateTurn_nearer (goesOn : hasCome now (GatePhase.wakeOf now phase) = true)
    (waits : (cache.gateTurn journal now backoff retries phase).2.2 = .waiting later) :
    later.distance < phase.elim (2 * retries + 1) GatePhase.distance := by
  cases phase with
  | none =>
      obtain ⟨made, tries⟩ := cache.gate_tries journal now backoff retries
      have near := tries.nearer waits
      simp only [Option.isSome_none, Bool.toNat_false, Option.elim_none] at near ⊢
      omega
  | some phase =>
      obtain ⟨made, resumes⟩ := cache.resumeGate_resumes journal now backoff phase
      exact resumes.nearer goesOn waits

end PolicyCache

end DecisionPoint
