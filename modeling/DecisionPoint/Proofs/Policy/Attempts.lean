import DecisionPoint.Policy.Gate

/-!
# The attempts of the gate

`Tries` follows the gate through its attempts and counts them.  A gate that is done has a policy or
has made all its attempts, and each part of it that can go on comes nearer to that.
-/

set_option autoImplicit false

namespace DecisionPoint

namespace GatePhase

def remaining : GatePhase → Nat
  | fetching remaining _ | pausing remaining _ => remaining

def distance : GatePhase → Nat
  | fetching remaining _ => 2 * remaining + 1
  | pausing remaining _ => 2 * remaining

end GatePhase

namespace PolicyCache

/-- The gate makes some attempts, before which one may have ended. -/
inductive Tries (now backoff : Nat) :
    Option RefreshOutcome → PolicyCache → Journal → Nat → GateRun → Nat → Prop where
  | givesUp {cache : PolicyCache} {journal : Journal} :
      Tries now backoff none cache journal 0 (cache, journal, .done cache.isReady) 0
  | isReady {cache : PolicyCache} {journal : Journal} {remaining : Nat}
      (ready : cache.isReady = true) :
      Tries now backoff none cache journal (remaining + 1) (cache, journal, .done true) 0
  | waits {cache cache' : PolicyCache} {journal journal' : Journal} {remaining : Nat}
      {wait : FetchWait} (empty : ¬ cache.isReady = true)
      (ran : cache.refresh journal now = (cache', journal', .waiting wait)) :
      Tries now backoff none cache journal (remaining + 1)
        (cache', journal', .waiting (.fetching remaining wait)) 1
  | ended {cache cache' : PolicyCache} {journal journal' : Journal} {remaining made : Nat}
      {outcome : RefreshOutcome} {run : GateRun} (empty : ¬ cache.isReady = true)
      (ran : cache.refresh journal now = (cache', journal', .done outcome))
      (rest : Tries now backoff (some outcome) cache' journal' remaining run made) :
      Tries now backoff none cache journal (remaining + 1) run (made + 1)
  | succeeds {cache : PolicyCache} {journal : Journal} {remaining : Nat}
      {outcome : RefreshOutcome} (succeeded : outcome.succeeded = true) :
      Tries now backoff (some outcome) cache journal remaining
        (cache, journal, .done cache.isReady) 0
  | pauses {cache : PolicyCache} {journal : Journal} {remaining : Nat} {outcome : RefreshOutcome} :
      Tries now backoff (some outcome) cache journal remaining
        (cache, journal, .waiting (.pausing remaining (now + backoff))) 0
  | again {cache : PolicyCache} {journal : Journal} {remaining made : Nat}
      {outcome : RefreshOutcome} {run : GateRun}
      (rest : Tries now backoff none cache journal remaining run made) :
      Tries now backoff (some outcome) cache journal remaining run made

/-- The gate goes on after it has waited. -/
inductive Resumes (now backoff : Nat) (cache : PolicyCache) (journal : Journal) :
    GatePhase → GateRun → Nat → Prop where
  | fetches {cache' : PolicyCache} {journal' : Journal} {remaining : Nat} {wait wait' : FetchWait}
      (ran : cache.resume journal now wait = (cache', journal', .waiting wait')) :
      Resumes now backoff cache journal (.fetching remaining wait)
        (cache', journal', .waiting (.fetching remaining wait')) 0
  | fetched {cache' : PolicyCache} {journal' : Journal} {remaining made : Nat} {wait : FetchWait}
      {outcome : RefreshOutcome} {run : GateRun}
      (ran : cache.resume journal now wait = (cache', journal', .done outcome))
      (rest : Tries now backoff (some outcome) cache' journal' remaining run made) :
      Resumes now backoff cache journal (.fetching remaining wait) run made
  | pauses {remaining time : Nat} (early : ¬ time ≤ now) :
      Resumes now backoff cache journal (.pausing remaining time)
        (cache, journal, .waiting (.pausing remaining time)) 0
  | paused {remaining time made : Nat} {run : GateRun}
      (rest : Tries now backoff none cache journal remaining run made) :
      Resumes now backoff cache journal (.pausing remaining time) run made

section Soundness

variable (cache : PolicyCache) (journal : Journal) (now backoff : Nat)

theorem gate_tries (remaining : Nat) :
    ∃ made, Tries now backoff none cache journal remaining
      (cache.gate journal now backoff remaining) made := by
  induction remaining generalizing cache journal with
  | zero => exact ⟨0, .givesUp⟩
  | succ remaining ih =>
      unfold gate
      split
      · next ready => exact ⟨0, .isReady ready⟩
      · next empty =>
          split
          · next cache' journal' wait ran => exact ⟨1, .waits empty ran⟩
          · next cache' journal' outcome ran =>
              split
              · next succeeded => exact ⟨_, .ended empty ran (.succeeds succeeded)⟩
              · split
                · exact ⟨_, .ended empty ran .pauses⟩
                · obtain ⟨made, rest⟩ := ih cache' journal'
                  exact ⟨_, .ended empty ran (.again rest)⟩

theorem gateAfter_tries (remaining : Nat) (outcome : RefreshOutcome) :
    ∃ made, Tries now backoff (some outcome) cache journal remaining
      (cache.gateAfter journal now backoff remaining outcome) made := by
  unfold gateAfter
  split
  · next succeeded => exact ⟨0, .succeeds succeeded⟩
  · split
    · exact ⟨0, .pauses⟩
    · obtain ⟨made, rest⟩ := cache.gate_tries journal now backoff remaining
      exact ⟨made, .again rest⟩

theorem resumeGate_resumes (phase : GatePhase) :
    ∃ made, Resumes now backoff cache journal phase
      (cache.resumeGate journal now backoff phase) made := by
  cases phase with
  | fetching remaining wait =>
      simp only [resumeGate]
      split
      · next cache' journal' wait' ran => exact ⟨0, .fetches ran⟩
      · next cache' journal' outcome ran =>
          obtain ⟨made, rest⟩ := cache'.gateAfter_tries journal' now backoff remaining outcome
          exact ⟨made, .fetched ran rest⟩
  | pausing remaining time =>
      simp only [resumeGate]
      split
      · obtain ⟨made, rest⟩ := cache.gate_tries journal now backoff remaining
        exact ⟨made, .paused rest⟩
      · next early => exact ⟨0, .pauses early⟩

end Soundness

section Ends

variable {cache cache' : PolicyCache} {journal journal' : Journal} {now backoff : Nat}

theorem hasCome_earlier (first second : Option Nat) :
    hasCome now (earlier first second) = (hasCome now first || hasCome now second) := by
  cases first with
  | none => cases second <;> rfl
  | some first =>
      cases second with
      | none => simp [hasCome, earlier]
      | some second =>
          rw [Bool.eq_iff_iff]
          simp only [hasCome, earlier, decide_eq_true_eq, Bool.or_eq_true]
          omega

theorem isReady_of_resume {wait : FetchWait} {outcome : RefreshOutcome}
    (ran : cache.resume journal now wait = (cache', journal', .done outcome))
    (succeeded : outcome.succeeded = true) : cache'.isReady = true := by
  have concluded (cache : PolicyCache) (fetched : Fetched)
      (ends : (cache.conclude journal fetched).2.2.succeeded = true) :
      (cache.conclude journal fetched).1.isReady = true := by
    cases fetched with
    | ok snapshot => rfl
    | error fault => cases ends
  unfold resume at ran
  split at ran
  · cases ran
    exact concluded _ _ succeeded
  · split at ran
    · cases ran
      exact concluded cache (.error (.timeout wait.limit)) succeeded
    · cases ran

theorem isReady_of_refresh {outcome : RefreshOutcome}
    (ran : cache.refresh journal now = (cache', journal', .done outcome))
    (succeeded : outcome.succeeded = true) : cache'.isReady = true := by
  unfold refresh at ran
  split at ran
  · cases ran
    cases succeeded
  · exact isReady_of_resume ran succeeded

theorem resume_waiting {wait wait' : FetchWait}
    (ran : cache.resume journal now wait = (cache', journal', .waiting wait')) :
    wait' = wait ∧ hasCome now wait.wake = false := by
  unfold resume at ran
  split at ran
  · cases ran
  · next unanswered =>
      split at ran
      · cases ran
      · next early =>
          cases ran
          refine ⟨rfl, ?_⟩
          rw [FetchWait.wake, hasCome_earlier, Bool.or_eq_false_iff]
          exact ⟨Bool.eq_false_iff.mpr unanswered, Bool.eq_false_iff.mpr early⟩

/-- A fetch goes on until its answer has come or its time is up. -/
theorem resume_early (cache : PolicyCache) (journal : Journal) {wait : FetchWait}
    (early : hasCome now wait.wake = false) :
    cache.resume journal now wait = (cache, journal, .waiting wait) := by
  rw [FetchWait.wake, hasCome_earlier, Bool.or_eq_false_iff] at early
  rw [resume, if_neg (by simp [early.1]), if_neg (by simp [early.2])]

theorem wake_of_refresh {wait : FetchWait}
    (ran : cache.refresh journal now = (cache', journal', .waiting wait)) :
    wait.wake.isSome = true := by
  unfold refresh at ran
  split at ran
  · cases ran
  · next acquired _ =>
      rw [(resume_waiting ran).1, FetchWait.wake, fetchFrom]
      cases acquired.options.fetchTimeout <;> rfl

/-- What attempts come to: a gate that is done has a policy or has made all of them. -/
def Tells (made remaining : Nat) : GateRun → Prop
  | (cache, _, .done _) => cache.isReady = true ∨ made = remaining
  | (_, _, .waiting gate) => made + gate.remaining = remaining ∧ gate.wake.isSome = true

theorem Tries.tells {ended : Option RefreshOutcome} {remaining made : Nat} {run : GateRun}
    (tries : Tries now backoff ended cache journal remaining run made)
    (published : ∀ outcome, ended = some outcome → outcome.succeeded = true →
      cache.isReady = true) : Tells made remaining run := by
  -- An attempt that has ended is counted already; `published` tells what it left behind.
  induction tries with
  | givesUp => exact .inr rfl
  | isReady ready => exact .inl ready
  | waits empty ran => exact ⟨Nat.add_comm 1 _, wake_of_refresh ran⟩
  | @ended cache cache' journal journal' remaining made outcome run empty ran rest ih =>
      have told := ih fun outcome' same succeeded => by
        cases same
        exact isReady_of_refresh ran succeeded
      obtain ⟨cache'', journal'', progress⟩ := run
      cases progress with
      | done value => exact told.imp_right (congrArg (· + 1))
      | waiting gate => exact ⟨by rw [Nat.add_right_comm, told.1], told.2⟩
  | succeeds succeeded => exact .inl (published _ rfl succeeded)
  | pauses => exact ⟨Nat.zero_add _, rfl⟩
  | again rest ih => exact ih fun outcome same => by cases same

theorem Resumes.tells {phase : GatePhase} {made : Nat} {run : GateRun}
    (resumes : Resumes now backoff cache journal phase run made)
    (wakes : phase.wake.isSome = true) : Tells made phase.remaining run := by
  cases resumes with
  | fetches ran =>
      obtain ⟨rfl, -⟩ := resume_waiting ran
      exact ⟨Nat.zero_add _, wakes⟩
  | fetched ran rest =>
      exact rest.tells fun outcome same succeeded => by
        cases same
        exact isReady_of_resume ran succeeded
  | pauses early => exact ⟨Nat.zero_add _, wakes⟩
  | paused rest => exact rest.tells fun outcome same => by cases same

theorem Tries.nearer {ended : Option RefreshOutcome} {remaining made : Nat} {run : GateRun}
    (tries : Tries now backoff ended cache journal remaining run made) {gate : GatePhase}
    (waits : run.2.2 = .waiting gate) :
    gate.distance < 2 * remaining + ended.isSome.toNat := by
  induction tries with
  | givesUp => cases waits
  | isReady ready => cases waits
  | waits empty ran =>
      cases waits
      simp only [GatePhase.distance, Option.isSome_none, Bool.toNat_false]
      omega
  | ended empty ran rest ih =>
      have near := ih waits
      simp only [Option.isSome_some, Option.isSome_none, Bool.toNat_true, Bool.toNat_false]
        at near ⊢
      omega
  | succeeds succeeded => cases waits
  | pauses =>
      cases waits
      exact Nat.lt_succ_self _
  | again rest ih =>
      have near := ih waits
      simp only [Option.isSome_some, Option.isSome_none, Bool.toNat_true, Bool.toNat_false]
        at near ⊢
      omega

theorem Resumes.nearer {phase gate : GatePhase} {made : Nat} {run : GateRun}
    (resumes : Resumes now backoff cache journal phase run made)
    (goesOn : hasCome now phase.wake = true) (waits : run.2.2 = .waiting gate) :
    gate.distance < phase.distance := by
  cases resumes with
  | fetches ran =>
      rw [GatePhase.wake, (resume_waiting ran).2] at goesOn
      cases goesOn
  | fetched ran rest => exact rest.nearer waits
  | pauses early =>
      simp only [GatePhase.wake, hasCome, decide_eq_true_eq] at goesOn
      exact absurd goesOn early
  | paused rest => exact rest.nearer waits

end Ends

end PolicyCache

end DecisionPoint
