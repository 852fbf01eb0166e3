import DecisionPoint.Policy.Gate
import DecisionPoint.Policy.RefreshLoop

/-!
# What refreshes do to the cache

Whoever refreshes takes the right to do so, waits for the fetch, and gives the right back when the
refresh has ended or is broken off.  The refreshes of the gate and of the background loop are made
of the same few events.  `Drives` says which of them a piece of work consists of, and whether it has
the right to refresh before and after.
-/

set_option autoImplicit false

namespace DecisionPoint

inductive RefreshEvent where
  | begun
  /-- The refresh is turned away, because another one is under way. -/
  | refused
  | published (snapshot : PolicySnapshot)
  | failed (fault : FetchFault)
  | brokenOff

def RefreshEvent.ofFetched : Fetched → RefreshEvent
  | .ok snapshot => published snapshot
  | .error fault => failed fault

def RefreshEvent.snapshot? : RefreshEvent → Option PolicySnapshot
  | published snapshot => some snapshot
  | _ => none

abbrev CacheState : Type := PolicyCache × Journal

/-- Nothing changes in what is in effect, in what is recorded of it, and in who refreshes. -/
structure Untouched (before after : CacheState) : Prop where
  current : after.1.current = before.1.current
  generation : after.1.generation = before.1.generation
  refreshing : after.1.refreshing = before.1.refreshing
  reports : after.1.reports = before.1.reports
  policy : after.2.status.policy = before.2.status.policy

theorem Untouched.refl (state : CacheState) : Untouched state state :=
  ⟨rfl, rfl, rfl, rfl, rfl⟩

theorem Untouched.trans {a b c : CacheState} (first : Untouched a b) (second : Untouched b c) :
    Untouched a c :=
  ⟨second.current.trans first.current, second.generation.trans first.generation,
    second.refreshing.trans first.refreshing, second.reports.trans first.reports,
    second.policy.trans first.policy⟩

namespace PolicyCache

def concluded (cache : PolicyCache) (journal : Journal) (fetched : Fetched) : CacheState :=
  ((cache.conclude journal fetched).1, (cache.conclude journal fetched).2.1)

end PolicyCache

/-- A piece of work takes the state through some events; the two truth values tell whether it has
the right to refresh, before and after. -/
inductive Drives : Bool → CacheState → List RefreshEvent → Bool → CacheState → Prop where
  | rests {holds : Bool} {before after : CacheState} (untouched : Untouched before after) :
      Drives holds before [] holds after
  | refused {cache : PolicyCache} {journal : Journal} (taken : cache.acquire = none) :
      Drives false (cache, journal) [.refused] false (cache, journal)
  | begins {cache acquired : PolicyCache} {journal : Journal}
      (free : cache.acquire = some acquired) :
      Drives false (cache, journal) [.begun] true (acquired, journal)
  | answered {cache : PolicyCache} {journal : Journal} :
      Drives true (cache, journal) [.ofFetched cache.source.answer.2] false
        ({ cache with source := cache.source.answer.1 }.concluded journal cache.source.answer.2)
  | timedOut {cache : PolicyCache} {journal : Journal} (limit : Span) :
      Drives true (cache, journal) [.failed (.timeout limit)] false
        (cache.concluded journal (.error (.timeout limit)))
  | brokenOff {cache : PolicyCache} {journal : Journal} :
      Drives true (cache, journal) [.brokenOff] false (cache.release, journal)
  | followed {a b c : Bool} {first second third : CacheState} {events later : List RefreshEvent}
      (drives : Drives a first events b second) (drives' : Drives b second later c third) :
      Drives a first (events ++ later) c third

def Progress.holds {α φ : Type} (holds : φ → Bool) : Progress α φ → Bool
  | .done _ => false
  | .waiting phase => holds phase

/-- A run of some work drives the state as far as it came. -/
def DrivesRun {α φ : Type} (holds : Bool) (before : CacheState) (holds' : φ → Bool)
    (run : PolicyCache × Journal × Progress α φ) : Prop :=
  ∃ events, Drives holds before events (run.2.2.holds holds') (run.1, run.2.1)

theorem DrivesRun.after {α φ : Type} {holds mid : Bool} {before middle : CacheState}
    {events : List RefreshEvent} {holds' : φ → Bool}
    {run : PolicyCache × Journal × Progress α φ} (drives : Drives holds before events mid middle)
    (rest : DrivesRun mid middle holds' run) : DrivesRun holds before holds' run := by
  obtain ⟨later, drives'⟩ := rest
  exact ⟨_, drives.followed drives'⟩

def GatePhase.isFetching : GatePhase → Bool
  | fetching _ _ => true
  | pausing _ _ => false

def LoopPhase.isFetching : LoopPhase → Bool
  | fetching _ _ => true
  | _ => false

namespace PolicyCache

variable (cache : PolicyCache) (journal : Journal) (now : Nat)

/-! ## Single refreshes -/

theorem resume_drives (wait : FetchWait) :
    DrivesRun true (cache, journal) (fun _ => true) (cache.resume journal now wait) := by
  unfold resume
  by_cases answers : hasCome now wait.answersAt = true
  · rw [if_pos answers]
    exact ⟨_, .answered⟩
  · rw [if_neg answers]
    by_cases late : hasCome now wait.deadline = true
    · rw [if_pos late]
      exact ⟨_, .timedOut wait.limit⟩
    · rw [if_neg late]
      exact ⟨[], .rests (.refl _)⟩

theorem refresh_drives :
    DrivesRun false (cache, journal) (fun _ => true) (cache.refresh journal now) := by
  cases free : cache.acquire with
  | none =>
      simp only [refresh, free]
      exact ⟨_, .refused free⟩
  | some acquired =>
      simp only [refresh, free]
      exact .after (.begins free) (acquired.resume_drives journal now (acquired.fetchFrom now))

/-! ## The gate -/

theorem gate_drives (backoff attempts : Nat) :
    DrivesRun false (cache, journal) GatePhase.isFetching
      (cache.gate journal now backoff attempts) := by
  induction attempts generalizing cache journal with
  | zero => exact ⟨[], .rests (.refl _)⟩
  | succ remaining ih =>
      unfold gate
      by_cases ready : cache.isReady = true
      · rw [if_pos ready]
        exact ⟨[], .rests (.refl _)⟩
      · rw [if_neg ready]
        have attempt := cache.refresh_drives journal now
        generalize cache.refresh journal now = run at attempt ⊢
        obtain ⟨cache', journal', progress⟩ := run
        obtain ⟨events, drives⟩ := attempt
        cases progress with
        | waiting wait => exact ⟨events, drives⟩
        | done outcome =>
            by_cases succeeded : outcome.succeeded = true
            · simp only [if_pos succeeded]
              exact ⟨events, drives⟩
            · by_cases pauses : cache'.isReady = false ∧ 0 < backoff
              · simp only [if_neg succeeded, if_pos pauses]
                exact ⟨events, drives⟩
              · simp only [if_neg succeeded, if_neg pauses]
                exact .after drives (ih cache' journal')

theorem gateAfter_drives (backoff remaining : Nat) (outcome : RefreshOutcome) :
    DrivesRun false (cache, journal) GatePhase.isFetching
      (cache.gateAfter journal now backoff remaining outcome) := by
  unfold gateAfter
  by_cases succeeded : outcome.succeeded = true
  · rw [if_pos succeeded]
    exact ⟨[], .rests (.refl _)⟩
  · rw [if_neg succeeded]
    by_cases pauses : cache.isReady = false ∧ 0 < backoff
    · rw [if_pos pauses]
      exact ⟨[], .rests (.refl _)⟩
    · rw [if_neg pauses]
      exact cache.gate_drives journal now backoff remaining

theorem resumeGate_drives (backoff : Nat) (phase : GatePhase) :
    DrivesRun phase.isFetching (cache, journal) GatePhase.isFetching
      (cache.resumeGate journal now backoff phase) := by
  cases phase with
  | fetching remaining wait =>
      have attempt := cache.resume_drives journal now wait
      simp only [resumeGate]
      generalize cache.resume journal now wait = run at attempt ⊢
      obtain ⟨cache', journal', progress⟩ := run
      obtain ⟨events, drives⟩ := attempt
      cases progress with
      | waiting wait' => exact ⟨events, drives⟩
      | done outcome =>
          exact .after drives (cache'.gateAfter_drives journal' now backoff remaining outcome)
  | pausing remaining time =>
      by_cases elapsed : time ≤ now
      · simp only [resumeGate, if_pos elapsed]
        exact cache.gate_drives journal now backoff remaining
      · simp only [resumeGate, if_neg elapsed]
        exact ⟨[], .rests (.refl _)⟩

/-! ## The background loop -/

theorem tick_drives (ticker : Ticker) :
    ∃ events, Drives false (cache, journal) events
      (cache.tick journal now ticker).2.2.isFetching
      ((cache.tick journal now ticker).1, (cache.tick journal now ticker).2.1) := by
  by_cases taken : cache.refreshing = true
  · simp only [tick, if_pos taken]
    exact ⟨[], .rests (.refl _)⟩
  · simp only [tick, if_neg taken]
    have attempt := cache.refresh_drives journal now
    generalize cache.refresh journal now = run at attempt ⊢
    obtain ⟨cache', journal', progress⟩ := run
    obtain ⟨events, drives⟩ := attempt
    cases progress with
    | done outcome => exact ⟨events, drives⟩
    | waiting wait => exact ⟨events, drives⟩

theorem runLoop_drives (stopped : Bool) (phase : LoopPhase) :
    DrivesRun phase.isFetching (cache, journal) LoopPhase.isFetching
      (cache.runLoop journal now stopped phase) := by
  cases stopped with
  | true =>
      cases phase with
      | fresh => exact ⟨[], .rests (.refl _)⟩
      | ticking ticker => exact ⟨[], .rests (.refl _)⟩
      | fetching ticker wait => exact ⟨_, .brokenOff⟩
  | false =>
      cases phase with
      | fresh =>
          exact cache.tick_drives journal now (.start cache.options.refreshInterval.millis now)
      | ticking ticker =>
          by_cases due : ticker.isDue now = true
          · simp only [runLoop, Bool.false_eq_true, if_false, if_pos due]
            exact cache.tick_drives journal now ticker
          · simp only [runLoop, Bool.false_eq_true, if_false, if_neg due]
            exact ⟨[], .rests (.refl _)⟩
      | fetching ticker wait =>
          have attempt := cache.resume_drives journal now wait
          simp only [runLoop, Bool.false_eq_true, if_false]
          generalize cache.resume journal now wait = run at attempt ⊢
          obtain ⟨cache', journal', progress⟩ := run
          obtain ⟨events, drives⟩ := attempt
          cases progress with
          | done outcome => exact ⟨events, drives⟩
          | waiting wait' => exact ⟨events, drives⟩

end PolicyCache

end DecisionPoint
