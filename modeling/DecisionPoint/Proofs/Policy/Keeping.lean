import DecisionPoint.Proofs.Policy.Drives
import DecisionPoint.Proofs.Telemetry.Entries

/-!
# What single refreshes keep, the gate and the loop keep

A refresh takes the right to refresh, takes an answer from the source, concludes, and gives the
right back.  The gate and the background loop do nothing but refresh.  So a relation that each of
these moves keeps to is kept to by all work on the policy.  Two such relations say what is left
alone and what is recorded.
-/

set_option autoImplicit false

namespace DecisionPoint

/-- Every single move of a refresh keeps to a relation. -/
structure KeepsTo (R : PolicyCache × Journal → PolicyCache × Journal → Prop) : Prop where
  refl : ∀ state, R state state
  trans : ∀ {a b c}, R a b → R b c → R a c
  acquires : ∀ cache journal, R (cache, journal) ({ cache with refreshing := true }, journal)
  answers : ∀ cache journal,
    R (cache, journal) ({ cache with source := cache.source.answer.1 }, journal)
  concludes : ∀ cache journal fetched, R (cache, journal)
    ((cache.conclude journal fetched).1, (cache.conclude journal fetched).2.1)
  releases : ∀ cache journal, R (cache, journal) (cache.release, journal)

namespace KeepsTo

variable {R : PolicyCache × Journal → PolicyCache × Journal → Prop} (keeps : KeepsTo R)
  (cache : PolicyCache) (journal : Journal) (now : Nat)

include keeps

theorem resume (wait : FetchWait) :
    R (cache, journal)
      ((cache.resume journal now wait).1, (cache.resume journal now wait).2.1) := by
  unfold PolicyCache.resume
  split
  · exact keeps.trans (keeps.answers cache journal)
      (keeps.concludes _ journal cache.source.answer.2)
  · split
    · exact keeps.concludes cache journal _
    · exact keeps.refl _

theorem refresh :
    R (cache, journal) ((cache.refresh journal now).1, (cache.refresh journal now).2.1) := by
  unfold PolicyCache.refresh PolicyCache.acquire
  split
  · exact keeps.refl _
  · next acquired free =>
      split at free
      · cases free
      · cases free
        exact keeps.trans (keeps.acquires cache journal) (keeps.resume _ journal now _)

theorem gate (backoff attempts : Nat) :
    R (cache, journal)
      ((cache.gate journal now backoff attempts).1,
        (cache.gate journal now backoff attempts).2.1) := by
  induction attempts generalizing cache journal with
  | zero => exact keeps.refl _
  | succ remaining ih =>
      have attempt := keeps.refresh cache journal now
      unfold PolicyCache.gate
      split
      · exact keeps.refl _
      · generalize cache.refresh journal now = run at attempt ⊢
        obtain ⟨cache', journal', progress⟩ := run
        cases progress with
        | waiting wait => exact attempt
        | done outcome =>
            simp only
            split
            · exact attempt
            · split
              · exact attempt
              · exact keeps.trans attempt (ih cache' journal')

theorem gateAfter (backoff remaining : Nat) (outcome : RefreshOutcome) :
    R (cache, journal)
      ((cache.gateAfter journal now backoff remaining outcome).1,
        (cache.gateAfter journal now backoff remaining outcome).2.1) := by
  unfold PolicyCache.gateAfter
  split
  · exact keeps.refl _
  · split
    · exact keeps.refl _
    · exact keeps.gate cache journal now backoff remaining

theorem resumeGate (backoff : Nat) (phase : GatePhase) :
    R (cache, journal)
      ((cache.resumeGate journal now backoff phase).1,
        (cache.resumeGate journal now backoff phase).2.1) := by
  cases phase with
  | fetching remaining wait =>
      have attempt := keeps.resume cache journal now wait
      simp only [PolicyCache.resumeGate]
      generalize cache.resume journal now wait = run at attempt ⊢
      obtain ⟨cache', journal', progress⟩ := run
      cases progress with
      | waiting wait' => exact attempt
      | done outcome =>
          exact keeps.trans attempt (keeps.gateAfter _ _ now backoff remaining outcome)
  | pausing remaining time =>
      simp only [PolicyCache.resumeGate]
      split
      · exact keeps.gate cache journal now backoff remaining
      · exact keeps.refl _

theorem tick (ticker : Ticker) :
    R (cache, journal)
      ((cache.tick journal now ticker).1, (cache.tick journal now ticker).2.1) := by
  have attempt := keeps.refresh cache journal now
  simp only [PolicyCache.tick]
  split
  · exact keeps.refl _
  · generalize cache.refresh journal now = run at attempt ⊢
    obtain ⟨cache', journal', progress⟩ := run
    cases progress <;> exact attempt

theorem runLoop (stopped : Bool) (phase : LoopPhase) :
    R (cache, journal)
      ((cache.runLoop journal now stopped phase).1,
        (cache.runLoop journal now stopped phase).2.1) := by
  cases phase with
  | fresh =>
      simp only [PolicyCache.runLoop]
      split
      · exact keeps.refl _
      · exact keeps.tick cache journal now _
  | ticking ticker =>
      simp only [PolicyCache.runLoop]
      split
      · exact keeps.refl _
      · split
        · exact keeps.tick cache journal now ticker
        · exact keeps.refl _
  | fetching ticker wait =>
      have attempt := keeps.resume cache journal now wait
      simp only [PolicyCache.runLoop]
      split
      · exact keeps.releases cache journal
      · generalize cache.resume journal now wait = run at attempt ⊢
        obtain ⟨cache', journal', progress⟩ := run
        cases progress <;> exact attempt

end KeepsTo

/-! ## What refreshes leave alone -/

/-- How many requests were not admitted, as it is recorded. -/
def Journal.rejections (journal : Journal) : Nat :=
  journal.counted.admissionRejections

/-- What work on the policy leaves as it is. -/
structure Steady (before after : PolicyCache × Journal) : Prop where
  options : after.1.options = before.1.options
  loop : after.1.loop = before.1.loop
  audit : after.2.audit = before.2.audit
  rejections : after.2.rejections = before.2.rejections

theorem Steady.refl (state : PolicyCache × Journal) : Steady state state := ⟨rfl, rfl, rfl, rfl⟩

theorem Steady.trans {a b c : PolicyCache × Journal} (first : Steady a b) (second : Steady b c) :
    Steady a c :=
  ⟨second.options.trans first.options, second.loop.trans first.loop,
    second.audit.trans first.audit, second.rejections.trans first.rejections⟩

namespace PolicyCache

variable (cache : PolicyCache) (journal : Journal) (now : Nat)

theorem conclude_steady (fetched : Fetched) :
    Steady (cache, journal)
      ((cache.conclude journal fetched).1, (cache.conclude journal fetched).2.1) := by
  cases fetched with
  | error fault => exact ⟨rfl, rfl, rfl, rfl⟩
  | ok snapshot =>
      refine ⟨rfl, rfl, ?_, ?_⟩
      · simp only [conclude]
        split <;> rfl
      · simp only [conclude]
        split
        · cases kept : journal.evaluationStatus <;>
            simp [Journal.rejections, Journal.counted, Journal.refreshed, Journal.policyLoaded,
              ServiceStatus.updatePolicy, kept]
        · rfl

end PolicyCache

theorem Steady.keepsTo : KeepsTo Steady where
  refl := .refl
  trans := .trans
  acquires _ _ := ⟨rfl, rfl, rfl, rfl⟩
  answers _ _ := ⟨rfl, rfl, rfl, rfl⟩
  concludes cache journal fetched := cache.conclude_steady journal fetched
  releases _ _ := ⟨rfl, rfl, rfl, rfl⟩

namespace PolicyCache

variable (cache : PolicyCache) (journal : Journal) (now : Nat)

theorem resume_steady (wait : FetchWait) :
    Steady (cache, journal)
      ((cache.resume journal now wait).1, (cache.resume journal now wait).2.1) :=
  Steady.keepsTo.resume cache journal now wait

theorem refresh_steady :
    Steady (cache, journal) ((cache.refresh journal now).1, (cache.refresh journal now).2.1) :=
  Steady.keepsTo.refresh cache journal now

theorem gate_steady (backoff attempts : Nat) :
    Steady (cache, journal)
      ((cache.gate journal now backoff attempts).1,
        (cache.gate journal now backoff attempts).2.1) :=
  Steady.keepsTo.gate cache journal now backoff attempts

theorem resumeGate_steady (backoff : Nat) (phase : GatePhase) :
    Steady (cache, journal)
      ((cache.resumeGate journal now backoff phase).1,
        (cache.resumeGate journal now backoff phase).2.1) :=
  Steady.keepsTo.resumeGate cache journal now backoff phase

theorem runLoop_steady (stopped : Bool) (phase : LoopPhase) :
    Steady (cache, journal)
      ((cache.runLoop journal now stopped phase).1,
        (cache.runLoop journal now stopped phase).2.1) :=
  Steady.keepsTo.runLoop cache journal now stopped phase

end PolicyCache

/-! ## What refreshes record -/

section Recording

open Journal (Entry)

/-- Some entries have been made, and each snapshot that was published has one. -/
structure Enters (before : CacheState) (entries : List Entry) (after : CacheState) : Prop where
  journal : after.2 = before.2.enterAll entries
  generation : after.1.generation =
    before.1.generation + .ofNat (entries.countP Entry.publishes)

theorem Enters.none {before after : CacheState} (journal : after.2 = before.2)
    (generation : after.1.generation = before.1.generation) : Enters before [] after :=
  ⟨journal, by rw [generation]; simp⟩

theorem Enters.trans {a b c : CacheState} {entries later : List Entry}
    (first : Enters a entries b) (second : Enters b later c) : Enters a (entries ++ later) c := by
  constructor
  · rw [second.journal, first.journal, Journal.enterAll, Journal.enterAll, Journal.enterAll,
      List.foldl_append]
  · rw [second.generation, first.generation, List.countP_append, UInt64.ofNat_add,
      UInt64.add_assoc]

/-- Entries have been made about the policy only. -/
def Administers (before after : CacheState) : Prop :=
  ∃ entries, Enters before entries after ∧ ∀ entry ∈ entries, entry.isOfPolicy = true

theorem Administers.ofSame {before after : CacheState} (journal : after.2 = before.2)
    (generation : after.1.generation = before.1.generation) : Administers before after :=
  ⟨[], .none journal generation, by simp⟩

theorem Administers.trans {a b c : CacheState} (first : Administers a b)
    (second : Administers b c) : Administers a c := by
  obtain ⟨entries, enters, ofPolicy⟩ := first
  obtain ⟨later, enters', ofPolicy'⟩ := second
  refine ⟨entries ++ later, enters.trans enters', ?_⟩
  intro entry mem
  exact (List.mem_append.mp mem).elim (ofPolicy entry) (ofPolicy' entry)

theorem PolicyCache.conclude_administers (cache : PolicyCache) (journal : Journal)
    (fetched : Fetched) : Administers (cache, journal) (cache.concluded journal fetched) := by
  cases fetched with
  | error fault =>
      refine ⟨[.refreshed false], ⟨rfl, ?_⟩, by simp [Entry.isOfPolicy]⟩
      simp [concluded, conclude, release, Entry.publishes]
  | ok snapshot =>
      cases reports : cache.reports with
      | true =>
          refine ⟨[.loaded snapshot, .refreshed true], ⟨?_, rfl⟩, by simp [Entry.isOfPolicy]⟩
          simp only [concluded, conclude, reports, if_true]
          rfl
      | false =>
          refine ⟨[.refreshed true], ⟨?_, rfl⟩, by simp [Entry.isOfPolicy]⟩
          simp only [concluded, conclude, reports]
          rfl

theorem Administers.keepsTo : KeepsTo Administers where
  refl _ := .ofSame rfl rfl
  trans := .trans
  acquires _ _ := .ofSame rfl rfl
  answers _ _ := .ofSame rfl rfl
  concludes cache journal fetched := cache.conclude_administers journal fetched
  releases _ _ := .ofSame rfl rfl

end Recording

end DecisionPoint
