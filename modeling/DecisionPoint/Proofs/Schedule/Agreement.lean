import DecisionPoint.Proofs.Admission.Account
import DecisionPoint.Proofs.Schedule.Recording

/-!
# Metrics and status agree

The status and the metrics are kept side by side and by different hands.  In every run they agree:
with each other, with the results of the evaluations, with the policies that were published and with
the handlers that were called.
-/

set_option autoImplicit false

namespace DecisionPoint

namespace Metrics

def events (metrics : Metrics) : Nat := (metrics.counts.map Prod.snd).sum

theorem total_le_events (metrics : Metrics) (name : String) :
    metrics.total name ≤ metrics.events := by
  obtain ⟨counts, durations⟩ := metrics
  simp only [total, events]
  induction counts with
  | nil => exact Nat.le_refl _
  | cons first rest ih =>
      rw [List.filter_cons]
      split
      · simp only [List.map_cons, List.sum_cons]
        omega
      · simp only [List.map_cons, List.sum_cons]
        omega

theorem count_le_events (metrics : Metrics) (counter : Counter) :
    metrics.count counter ≤ metrics.events := by
  obtain ⟨counts, durations⟩ := metrics
  simp only [count, events]
  induction counts with
  | nil => exact Nat.le_refl _
  | cons first rest ih =>
      rw [List.lookup_cons]
      split
      · simp only [Option.getD_some, List.map_cons, List.sum_cons]
        omega
      · simp only [List.map_cons, List.sum_cons]
        omega

end Metrics

/-- A report tells the totals that the metrics tell, and how many results were no failures. -/
structure StatusReport.Shows (report : StatusReport) (metrics : Metrics)
    (results : List FinalResult) : Prop where
  requests : report.totalRequests.toNat = metrics.total "arbiter_requests_total"
  errors : report.totalRequestErrors.toNat = metrics.total "arbiter_request_errors_total"
  rejections : report.admissionRejections.toNat = metrics.count .admissionRejection
  completed : report.totalRequests.toNat =
    report.totalCompletedRequests.toNat + results.countP FinalResult.isError

/-- What the metrics tell agrees with the status, with the policy cache, with the calls of handlers
and with some results. -/
structure Service.Agrees (service : Service) (results : List FinalResult) : Prop where
  requests : service.journal.metrics.total "arbiter_requests_total" =
    service.journal.status.totalRequests
  decisions : ∀ decision, service.journal.metrics.count (.request decision) =
    results.countP fun result => result.outcome.decision.name = decision
  evaluated : service.journal.status.totalRequests = results.length
  failures : service.journal.status.pipelineErrors = results.countP FinalResult.isError
  errors : service.journal.metrics.total "arbiter_request_errors_total" =
    service.journal.status.totalRequestErrors
  rejections : service.journal.metrics.count .admissionRejection =
    service.journal.status.admissionRejections
  generation : service.cache.generation =
    .ofNat (service.journal.metrics.count (.policyRefresh true))
  obligations : ∀ id, service.journal.metrics.count (.obligationApplied id) =
    service.calls.countP (Call.fulfils id)
  distinct : (service.journal.metrics.counts.map Prod.fst).Nodup

theorem Service.Agrees.generation_toNat {service : Service} {results : List FinalResult}
    (agrees : service.Agrees results) (few : service.journal.metrics.events < UInt64.size) :
    service.cache.generation.toNat = service.journal.metrics.count (.policyRefresh true) := by
  rw [agrees.generation]
  exact UInt64.toNat_ofNat_of_lt (Nat.lt_of_le_of_lt (Metrics.count_le_events _ _) few)

theorem Service.Agrees.shows {service : Service} {results : List FinalResult}
    (agrees : service.Agrees results) (few : service.journal.metrics.events < UInt64.size) :
    service.report.Shows service.journal.metrics results := by
  have within (n : Nat) (some : n ≤ service.journal.metrics.events) : (UInt64.ofNat n).toNat = n :=
    UInt64.toNat_ofNat_of_lt (Nat.lt_of_le_of_lt some few)
  have requests := Metrics.total_le_events service.journal.metrics "arbiter_requests_total"
  have errors := Metrics.total_le_events service.journal.metrics "arbiter_request_errors_total"
  have rejections := Metrics.count_le_events service.journal.metrics .admissionRejection
  have failures : results.countP FinalResult.isError ≤ results.length := List.countP_le_length
  rw [agrees.requests] at requests
  rw [agrees.errors] at errors
  rw [agrees.rejections] at rejections
  have counted := agrees.evaluated
  have failed := agrees.failures
  simp only [report, ServiceStatus.report]
  constructor
  · rw [agrees.requests]
    exact within _ requests
  · rw [agrees.errors]
    exact within _ errors
  · rw [agrees.rejections]
    exact within _ rejections
  · simp only
    rw [within _ requests, within _ (by omega)]
    omega

namespace World

/-- The journal has advanced by the results of all looks and the troubles of all answers. -/
theorem Ledger.advances {beginning world : World} {happenings : List Happening}
    {deeds : List Deed} {options : ServiceOptions}
    (ledger : Ledger beginning happenings world deeds) (new : beginning.IsNew options) :
    ∃ entries, beginning.service.Notes entries world.service ∧
      beginning.service.journal.Advances entries world.service.journal ∧
      Journal.resultsOf entries = (looksIn deeds).filterMap Look.result? ∧
      Journal.troublesOf entries = troublesIn happenings := by
  obtain ⟨source, engine, points, handlers, startedAt, surroundings, rfl⟩ := new
  obtain ⟨entries, notes, results, troubles⟩ := ledger.accrues
  have reached : world.service.journal =
      (Journal.start (.new options.serviceName serviceVersion startedAt)).enterAll entries :=
    notes.enters.journal
  have advances := Journal.enterAll_advances
    (.start (.new options.serviceName serviceVersion startedAt)) rfl entries
  rw [← reached] at advances
  exact ⟨entries, notes, advances, results, troubles⟩

theorem Ledger.agrees {beginning world : World} {happenings : List Happening} {deeds : List Deed}
    {options : ServiceOptions} (ledger : Ledger beginning happenings world deeds)
    (new : beginning.IsNew options) :
    world.service.Agrees ((looksIn deeds).filterMap Look.result?) := by
  obtain ⟨entries, notes, advances, results, -⟩ := ledger.advances new
  obtain ⟨source, engine, points, handlers, startedAt, surroundings, rfl⟩ := new
  -- Nothing was counted in the beginning, so all counts are those of the entries.
  have counts (counter : Counter) : world.service.journal.metrics.count counter =
      (Journal.countersOf entries).count counter :=
    (advances.counts counter).trans (Nat.zero_add _)
  have totals (name : String) : world.service.journal.metrics.total name =
      (Journal.countersOf entries).countP fun counter => counter.name = name :=
    (advances.totals name).trans (Nat.zero_add _)
  have requests := advances.requests.trans (Nat.zero_add _)
  have failures := advances.failures.trans (Nat.zero_add _)
  have transport := advances.transport.trans (Nat.zero_add _)
  have rejections := advances.rejections.trans (Nat.zero_add _)
  have generation : world.service.cache.generation =
      .ofNat (entries.countP Journal.Entry.publishes) :=
    notes.enters.generation.trans (UInt64.zero_add _)
  rw [← results]
  constructor
  · rw [totals, Journal.requests_countersOf, requests]
  · intro decision
    rw [counts, Journal.request_countersOf]
  · exact requests
  · exact failures
  · rw [totals, Journal.errors_countersOf, ServiceStatus.totalRequestErrors, failures, transport]
  · rw [counts, Journal.rejections_countersOf, rejections]
  · rw [counts, Journal.refreshes_countersOf, generation]
  · intro id
    rw [counts, Journal.obligations_countersOf, notes.calls]
    exact (Nat.zero_add _).symm
  · exact advances.distinct List.nodup_nil

end World

/-- In every run the metrics agree with the status, with the policy cache, with the results of all
evaluations and with the calls of the handlers, whatever has happened.  As long as the counts fit
into words, the reports show them, and the generation is the number of refreshes that succeeded. -/
theorem metrics_agree_with_status (options : ServiceOptions) (beginning world : World)
    (happenings : List Happening) (new : beginning.IsNew options)
    (run : World.Run beginning happenings world) :
    (∃ deeds, World.Ledger beginning happenings world deeds) ∧
      ∀ deeds, World.Ledger beginning happenings world deeds →
        world.service.Agrees ((looksIn deeds).filterMap Look.result?) ∧
        (world.service.journal.metrics.events < UInt64.size →
          world.service.report.Shows world.service.journal.metrics
            ((looksIn deeds).filterMap Look.result?) ∧
          world.service.cache.generation.toNat =
            world.service.journal.metrics.count (.policyRefresh true)) := by
  refine ⟨run.ledger, ?_⟩
  intro deeds ledger
  have agrees := ledger.agrees new
  exact ⟨agrees, fun few => ⟨agrees.shows few, agrees.generation_toNat few⟩⟩

/-! ## Two failures -/

namespace SampleAgreement

def permitting : Engine := fun _ _ =>
  .decided (.new .permit [⟨"log", .permit, .empty⟩, ⟨"mail", .permit, .empty⟩] none)

def logger : Handler := .plain "logger" "log" fun _ _ _ => .fulfilled

def mailer : Handler := .plain "mailer" "mail" fun _ _ _ => .failed ⟨"mail", "down"⟩

def registry : HandlerRegistry :=
  ⟨[(⟨0, "log"⟩, logger), (⟨0, "mail"⟩, mailer)], [("log", ⟨0, "log"⟩), ("mail", ⟨0, "mail"⟩)]⟩

def beginning : World :=
  .start
    (.new .default (.always (.ok (.new "alpha" "1" .epoch))) permitting [] registry .epoch)
    { Surroundings.default with server := { ServerOptions.default with maxBodyBytes := 0 } }

/-- A request whose body is larger than the server takes. -/
def large : HttpRequest := ⟨"POST", "/authz", ⟨#[0]⟩, true⟩

end SampleAgreement

open SampleAgreement in
/-- A request is too large, and the evaluation of another fails after one obligation is fulfilled:
both failures are counted, and so is the obligation. -/
theorem failures_are_counted_on_both_sides :
    ∃ happenings world deeds, World.Run beginning happenings world ∧
      World.Ledger beginning happenings world deeds ∧
      world.service.journal.metrics.total "arbiter_requests_total" = 1 ∧
      world.service.journal.metrics.total "arbiter_request_errors_total" = 2 ∧
      world.service.journal.metrics.count (.obligationApplied "log") = 1 ∧
      world.service.cache.generation = 1 ∧
      world.service.Agrees ((looksIn deeds).filterMap Look.result?) ∧
      world.service.report.Shows world.service.journal.metrics
        ((looksIn deeds).filterMap Look.result?) := by
  have opened : World.Run beginning _ _ :=
    .step (.step .start (.begins (.starting .fresh) rfl)) (.turns [] [] _ _ _ rfl rfl)
  have asked : World.Run beginning _ _ :=
    .step (.step opened (.begins (.answering .authorization large .fresh) rfl))
      (.turns [] [] _ _ _ rfl rfl)
  have evaluated : World.Run beginning _ _ :=
    .step (.step asked (.begins (.evaluating (.blank "r") none) rfl)) (.turns [] [] _ _ _ rfl rfl)
  have new : beginning.IsNew .default := ⟨_, _, _, _, _, _, rfl⟩
  obtain ⟨⟨deeds, ledger⟩, agreement⟩ := metrics_agree_with_status .default _ _ _ new evaluated
  obtain ⟨agrees, shown⟩ := agreement deeds ledger
  exact ⟨_, _, deeds, evaluated, ledger, rfl, rfl, rfl, rfl, agrees, (shown (by decide)).1⟩

end DecisionPoint
