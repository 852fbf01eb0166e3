import DecisionPoint.Journal
import Mathlib.Algebra.GroupWithZero.Nat

/-!
# Entries of the journal

All that is recorded comes down to a few kinds of entries.  Each entry counts in the status and in
the metrics at once, so both can be told from the entries so far, and they agree.
-/

set_option autoImplicit false

namespace DecisionPoint

/-! ## Counters -/

namespace Metrics

def total (metrics : Metrics) (name : String) : Nat :=
  ((metrics.counts.filter fun item => item.1.name = name).map Prod.snd).sum

def incrementAll (metrics : Metrics) (counters : List Counter) : Metrics :=
  counters.foldl increment metrics

theorem lookup_bump (counter other : Counter) (counts : List (Counter × Nat)) :
    ((bump counter counts).lookup other).getD 0 =
      (counts.lookup other).getD 0 + if counter = other then 1 else 0 := by
  induction counts with
  | nil =>
      by_cases same : counter = other
      · simp [bump, same]
      · simp [bump, same, List.lookup_cons, beq_eq_false_iff_ne.mpr (Ne.symm same)]
  | cons first rest ih =>
      obtain ⟨key, n⟩ := first
      unfold bump
      by_cases here : counter = key
      · subst here
        by_cases same : counter = other
        · simp [same]
        · simp [same, List.lookup_cons, beq_eq_false_iff_ne.mpr (Ne.symm same)]
      · rw [if_neg here, List.lookup_cons, List.lookup_cons]
        by_cases found : other = key
        · subst found
          simp [here]
        · simp [beq_eq_false_iff_ne.mpr found, ih]

theorem keys_bump (counter : Counter) (counts : List (Counter × Nat)) :
    (bump counter counts).map Prod.fst =
      counts.map Prod.fst ++ if counter ∈ counts.map Prod.fst then [] else [counter] := by
  induction counts with
  | nil => rfl
  | cons first rest ih =>
      unfold bump
      by_cases here : counter = first.1
      · simp [here]
      · simp only [here, if_false, List.map_cons, ih, List.cons_append, List.mem_cons, false_or]

theorem count_increment (metrics : Metrics) (counter other : Counter) :
    (metrics.increment counter).count other =
      metrics.count other + if counter = other then 1 else 0 :=
  lookup_bump counter other metrics.counts

theorem total_increment (metrics : Metrics) (counter : Counter) (name : String) :
    (metrics.increment counter).total name =
      metrics.total name + if counter.name = name then 1 else 0 := by
  obtain ⟨counts, durations⟩ := metrics
  simp only [increment, total]
  induction counts with
  | nil => by_cases same : counter.name = name <;> simp [bump, same]
  | cons first rest ih =>
      obtain ⟨key, n⟩ := first
      unfold bump
      by_cases here : counter = key
      · subst here
        by_cases same : counter.name = name <;> simp [same]
        omega
      · rw [if_neg here]
        by_cases same : key.name = name
        · simp only [List.filter_cons, same, decide_true, if_true, List.map_cons, List.sum_cons, ih]
          omega
        · simp only [List.filter_cons, same, decide_false, Bool.false_eq_true, if_false, ih]

theorem distinct_increment (metrics : Metrics) (counter : Counter)
    (distinct : (metrics.counts.map Prod.fst).Nodup) :
    ((metrics.increment counter).counts.map Prod.fst).Nodup := by
  rw [increment, keys_bump]
  by_cases known : counter ∈ metrics.counts.map Prod.fst
  · simpa [known] using distinct
  · rw [if_neg known, List.nodup_append]
    refine ⟨distinct, by simp, ?_⟩
    intro other mem last same
    cases List.mem_singleton.mp same
    rintro rfl
    exact known mem

theorem distinct_incrementAll (metrics : Metrics) (counters : List Counter)
    (distinct : (metrics.counts.map Prod.fst).Nodup) :
    ((metrics.incrementAll counters).counts.map Prod.fst).Nodup := by
  induction counters generalizing metrics with
  | nil => exact distinct
  | cons first rest ih => exact ih _ (metrics.distinct_increment first distinct)

theorem count_incrementAll (metrics : Metrics) (counters : List Counter) (counter : Counter) :
    (metrics.incrementAll counters).count counter =
      metrics.count counter + counters.count counter := by
  induction counters generalizing metrics with
  | nil => rfl
  | cons first rest ih =>
      have later := ih (metrics.increment first)
      rw [count_increment] at later
      simp only [incrementAll, List.foldl_cons] at later ⊢
      rw [later, List.count_cons]
      simp only [beq_iff_eq]
      omega

theorem total_incrementAll (metrics : Metrics) (counters : List Counter) (name : String) :
    (metrics.incrementAll counters).total name =
      metrics.total name + counters.countP fun counter => counter.name = name := by
  induction counters generalizing metrics with
  | nil => rfl
  | cons first rest ih =>
      have later := ih (metrics.increment first)
      rw [total_increment] at later
      simp only [incrementAll, List.foldl_cons] at later ⊢
      rw [later, List.countP_cons]
      simp only [decide_eq_true_eq]
      omega

end Metrics

/-! ## Entries -/

namespace Journal

/-- What keeps a request from a decision before or after its evaluation. -/
inductive Trouble where
  | transport
  | busy
deriving DecidableEq

def Trouble.isOfTransport : Trouble → Bool
  | transport => true
  | busy => false

inductive Entry where
  | evaluated (result : FinalResult)
  | fulfilled (obligationId : String)
  | rejected
  | failed (kind : String)
  | loaded (snapshot : PolicySnapshot)
  | refreshed (succeeded : Bool)

namespace Entry

def result? : Entry → Option FinalResult
  | evaluated result => some result
  | _ => none

def trouble? : Entry → Option Trouble
  | rejected => some .busy
  | failed _ => some .transport
  | _ => none

def publishes : Entry → Bool
  | refreshed succeeded => succeeded
  | _ => false

def fulfils (id : String) : Entry → Bool
  | fulfilled obligationId => obligationId = id
  | _ => false

def isOfPolicy : Entry → Bool
  | loaded _ | refreshed _ => true
  | _ => false

def counters : Entry → List Counter
  | evaluated result =>
    (result.failure.map fun failure => Counter.requestError failure.kind).toList ++
      [.request result.outcome.decision.name]
  | fulfilled obligationId => [.obligationApplied obligationId]
  | rejected => [.admissionRejection]
  | failed kind => [.requestError kind]
  | loaded _ => []
  | refreshed succeeded => [.policyRefresh succeeded]

end Entry

def countersOf (entries : List Entry) : List Counter := entries.flatMap Entry.counters

def resultsOf (entries : List Entry) : List FinalResult := entries.filterMap Entry.result?

def troublesOf (entries : List Entry) : List Trouble := entries.filterMap Entry.trouble?

section Lists

variable (entry : Entry) (entries later : List Entry)

theorem countersOf_append :
    countersOf (entries ++ later) = countersOf entries ++ countersOf later :=
  List.flatMap_append

theorem resultsOf_append : resultsOf (entries ++ later) = resultsOf entries ++ resultsOf later :=
  List.filterMap_append

theorem troublesOf_append :
    troublesOf (entries ++ later) = troublesOf entries ++ troublesOf later :=
  List.filterMap_append

theorem resultsOf_cons :
    resultsOf (entry :: entries) = entry.result?.toList ++ resultsOf entries := by
  cases held : entry.result? <;> simp [resultsOf, held]

theorem troublesOf_cons :
    troublesOf (entry :: entries) = entry.trouble?.toList ++ troublesOf entries := by
  cases held : entry.trouble? <;> simp [troublesOf, held]

end Lists

def enter (journal : Journal) : Entry → Journal
  | .evaluated result =>
    (match result.failure with
      | some failure => journal.evaluationFailed failure
      | none => journal).completed result
  | .fulfilled obligationId => journal.obligationsFulfilled [obligationId]
  | .rejected => journal.rejected
  | .failed kind => journal.transportFailed kind
  | .loaded snapshot => journal.policyLoaded snapshot
  | .refreshed succeeded => journal.refreshed succeeded

def enterAll (journal : Journal) (entries : List Entry) : Journal := entries.foldl enter journal

/-- What is counted after some entries, if evaluations are counted in the common status. -/
structure Advances (before : Journal) (entries : List Entry) (after : Journal) : Prop where
  common : after.evaluationStatus = none
  counts : ∀ counter, after.metrics.count counter =
    before.metrics.count counter + (countersOf entries).count counter
  totals : ∀ name, after.metrics.total name =
    before.metrics.total name + (countersOf entries).countP fun counter => counter.name = name
  distinct : (before.metrics.counts.map Prod.fst).Nodup → (after.metrics.counts.map Prod.fst).Nodup
  requests : after.status.totalRequests =
    before.status.totalRequests + (resultsOf entries).length
  failures : after.status.pipelineErrors =
    before.status.pipelineErrors + (resultsOf entries).countP FinalResult.isError
  transport : after.status.transportErrors =
    before.status.transportErrors + (troublesOf entries).countP Trouble.isOfTransport
  rejections : after.status.admissionRejections =
    before.status.admissionRejections + (troublesOf entries).count .busy

theorem enter_advances (journal : Journal) (common : journal.evaluationStatus = none)
    (entry : Entry) : journal.Advances [entry] (journal.enter entry) := by
  obtain ⟨status, evaluationStatus, metrics, audit⟩ := journal
  cases common
  have counts := metrics.count_incrementAll (countersOf [entry])
  have totals := metrics.total_incrementAll (countersOf [entry])
  have distinct := metrics.distinct_incrementAll (countersOf [entry])
  cases entry with
  | evaluated result =>
      obtain ⟨requestId, requesterId, responseId, outcome, policy, applied, stage, failure, time⟩ :=
        result
      cases failure <;> exact ⟨rfl, counts, totals, distinct, rfl, rfl, rfl, rfl⟩
  | _ => exact ⟨rfl, counts, totals, distinct, rfl, rfl, rfl, rfl⟩

theorem Advances.refl (journal : Journal) (common : journal.evaluationStatus = none) :
    journal.Advances [] journal :=
  ⟨common, fun _ => rfl, fun _ => rfl, id, rfl, rfl, rfl, rfl⟩

theorem Advances.trans {a b c : Journal} {entries later : List Entry}
    (first : a.Advances entries b) (second : b.Advances later c) :
    a.Advances (entries ++ later) c := by
  refine ⟨second.common, ?_, ?_, second.distinct ∘ first.distinct, ?_, ?_, ?_, ?_⟩
  · intro counter
    rw [second.counts, first.counts, countersOf_append, List.count_append, Nat.add_assoc]
  · intro name
    rw [second.totals, first.totals, countersOf_append, List.countP_append, Nat.add_assoc]
  · rw [second.requests, first.requests, resultsOf_append, List.length_append, Nat.add_assoc]
  · rw [second.failures, first.failures, resultsOf_append, List.countP_append, Nat.add_assoc]
  · rw [second.transport, first.transport, troublesOf_append, List.countP_append, Nat.add_assoc]
  · rw [second.rejections, first.rejections, troublesOf_append, List.count_append, Nat.add_assoc]

theorem enterAll_advances (journal : Journal) (common : journal.evaluationStatus = none)
    (entries : List Entry) : journal.Advances entries (journal.enterAll entries) := by
  induction entries generalizing journal with
  | nil => exact .refl journal common
  | cons entry rest ih =>
      have first := journal.enter_advances common entry
      exact first.trans (ih _ first.common)

/-! ## What counters tell of entries -/

section Counting

variable (entries : List Entry)

theorem countP_countersOf (counts : Counter → Bool) (amount : List Entry → Nat)
    (nothing : amount [] = 0)
    (more : ∀ entry rest, amount (entry :: rest) = entry.counters.countP counts + amount rest) :
    (countersOf entries).countP counts = amount entries := by
  induction entries with
  | nil => exact nothing.symm
  | cons entry rest ih => rw [more, ← ih, countersOf, List.flatMap_cons, List.countP_append]; rfl

theorem requests_countersOf :
    ((countersOf entries).countP fun counter => counter.name = "arbiter_requests_total") =
      (resultsOf entries).length := by
  refine countP_countersOf entries _ (fun entries => (resultsOf entries).length) rfl ?_
  intro entry rest
  rw [resultsOf_cons, List.length_append]
  cases entry with
  | evaluated result =>
      cases failure : result.failure <;>
        simp [Entry.result?, Entry.counters, Counter.name, failure]
  | _ => simp [Entry.result?, Entry.counters, Counter.name]

theorem errors_countersOf :
    ((countersOf entries).countP fun counter => counter.name = "arbiter_request_errors_total") =
      (resultsOf entries).countP FinalResult.isError +
        (troublesOf entries).countP Trouble.isOfTransport := by
  refine countP_countersOf entries _
    (fun entries => (resultsOf entries).countP FinalResult.isError +
      (troublesOf entries).countP Trouble.isOfTransport) rfl ?_
  intro entry rest
  simp only [resultsOf_cons, troublesOf_cons, List.countP_append]
  cases entry with
  | evaluated result =>
      cases failure : result.failure <;>
        simp [Entry.result?, Entry.trouble?, Entry.counters, Counter.name, FinalResult.isError,
          failure]
      omega
  | failed kind =>
      simp [Entry.result?, Entry.trouble?, Entry.counters, Counter.name, Trouble.isOfTransport]
      omega
  | rejected =>
      simp [Entry.result?, Entry.trouble?, Entry.counters, Counter.name, Trouble.isOfTransport]
  | _ => simp [Entry.result?, Entry.trouble?, Entry.counters, Counter.name]

theorem request_countersOf (decision : String) :
    (countersOf entries).count (.request decision) =
      (resultsOf entries).countP fun result => result.outcome.decision.name = decision := by
  refine countP_countersOf entries _
    (fun entries => (resultsOf entries).countP fun result =>
      result.outcome.decision.name = decision)
    rfl ?_
  intro entry rest
  rw [resultsOf_cons, List.countP_append]
  cases entry with
  | evaluated result =>
      cases failure : result.failure <;>
        simp [Entry.result?, Entry.counters, failure, List.countP_singleton]
  | _ => simp [Entry.result?, Entry.counters]

theorem rejections_countersOf :
    (countersOf entries).count .admissionRejection = (troublesOf entries).count .busy := by
  refine countP_countersOf entries _ (fun entries => (troublesOf entries).count .busy) rfl ?_
  intro entry rest
  rw [troublesOf_cons, List.count_append]
  cases entry with
  | evaluated result =>
      cases failure : result.failure <;> simp [Entry.trouble?, Entry.counters, failure]
  | _ => simp [Entry.trouble?, Entry.counters]

theorem refreshes_countersOf :
    (countersOf entries).count (.policyRefresh true) = entries.countP Entry.publishes := by
  refine countP_countersOf entries _ (fun entries => entries.countP Entry.publishes) rfl ?_
  intro entry rest
  rw [List.countP_cons, Nat.add_comm]
  cases entry with
  | evaluated result =>
      cases failure : result.failure <;> simp [Entry.publishes, Entry.counters, failure]
  | refreshed succeeded => cases succeeded <;> simp [Entry.publishes, Entry.counters]
  | _ => simp [Entry.publishes, Entry.counters]

theorem obligations_countersOf (id : String) :
    (countersOf entries).count (.obligationApplied id) = entries.countP (Entry.fulfils id) := by
  refine countP_countersOf entries _ (fun entries => entries.countP (Entry.fulfils id)) rfl ?_
  intro entry rest
  rw [List.countP_cons, Nat.add_comm]
  cases entry with
  | evaluated result =>
      cases failure : result.failure <;> simp [Entry.fulfils, Entry.counters, failure]
  | fulfilled other => simp [Entry.fulfils, Entry.counters, List.countP_singleton]
  | _ => simp [Entry.fulfils, Entry.counters]

end Counting

end Journal

end DecisionPoint
