import DecisionPoint.Http.Endpoint
import DecisionPoint.Proofs.Policy.Drives
import DecisionPoint.Service.Lifecycle

/-!
# What has nothing to do with the policy

Evaluations, requests, workers and most answers leave the policy cache as it is, and the policy that
the status tells of.  Starting and stopping change at most which loop there is.
-/

set_option autoImplicit false

namespace DecisionPoint

theorem Journal.completed_policy (journal : Journal) (result : FinalResult) :
    (journal.completed result).status.policy = journal.status.policy := by
  unfold Journal.completed Journal.countEvaluation
  cases journal.evaluationStatus <;> rfl

theorem Journal.rejected_policy (journal : Journal) :
    journal.rejected.status.policy = journal.status.policy := by
  unfold Journal.rejected
  cases journal.evaluationStatus <;> rfl

namespace Service

/-- The cache and the recorded policy stay as they are. -/
structure Spares (before after : Service) : Prop where
  cache : after.cache = before.cache
  policy : after.journal.status.policy = before.journal.status.policy

/-- What is in effect, and what is recorded of it, stays as it is. -/
abbrev LeavesPolicy (before after : Service) : Prop :=
  Untouched (before.cache, before.journal) (after.cache, after.journal)

theorem Spares.refl (service : Service) : service.Spares service := ⟨rfl, rfl⟩

theorem Spares.trans {a b c : Service} (first : a.Spares b) (second : b.Spares c) : a.Spares c :=
  ⟨second.cache.trans first.cache, second.policy.trans first.policy⟩

theorem Spares.leaves {before after : Service} (spares : before.Spares after) :
    before.LeavesPolicy after := by
  obtain ⟨cache, policy⟩ := spares
  refine ⟨?_, ?_, ?_, ?_, policy⟩ <;> rw [cache]

theorem Spares.ofRun {α : Type} {before after : Service} {run : Service × α} {value : α}
    (ran : run = (after, value)) (spares : before.Spares run.1) : before.Spares after := by
  rw [ran] at spares
  exact spares

section Functions

variable (service : Service) (now : Nat)

/-! ## Evaluations -/

theorem complete_spares (occasion : Occasion) (policy : Option PolicySnapshot)
    (verdict : Verdict) : service.Spares (service.complete now occasion policy verdict).1 := by
  refine ⟨rfl, ?_⟩
  simp only [complete, Journal.completed_policy]
  split <;> rfl

theorem proceed_spares (occasion : Occasion) (policy : PolicySnapshot)
    (work : Pipeline.Enriching) :
    service.Spares (service.proceed now occasion policy work).1 := by
  have called : service.Spares (service.called work.calls) := ⟨rfl, rfl⟩
  unfold proceed
  simp only
  split
  · exact called
  · exact called.trans (complete_spares _ now occasion (some policy) _)
  · refine called.trans (.trans ?_ (complete_spares _ now occasion (some policy) _))
    exact ⟨rfl, rfl⟩

theorem evaluate_spares (request : Request) :
    service.Spares (service.evaluate now request).1 := by
  unfold evaluate
  split
  · exact service.complete_spares now (.of request) none (.failed .policyUnavailable none)
  · exact service.proceed_spares now (.of request) _ _

theorem resumeEvaluation_spares (evaluation : Evaluation) :
    service.Spares (service.resumeEvaluation now evaluation).1 :=
  service.proceed_spares now _ _ _

/-! ## Requests and workers -/

theorem leave_spares (ticket : Ticket) : service.Spares (service.leave ticket) := by
  unfold leave
  split <;> exact ⟨rfl, rfl⟩

theorem updateShell_spares (number : Nat) (update : Shell → Shell) :
    service.Spares (service.updateShell number update) := by
  unfold updateShell
  split <;> exact ⟨rfl, rfl⟩

theorem submit_spares (request : Request) : service.Spares (service.submit request).1 := by
  unfold submit
  split
  · exact .refl service
  · split
    · exact .refl service
    · simp only [freshNumber]
      split
      · exact ⟨rfl, rfl⟩
      · exact ⟨rfl, service.journal.rejected_policy⟩
      · exact ⟨rfl, rfl⟩

theorem collect_spares (ticket : Ticket) : service.Spares (service.collect ticket).1 := by
  unfold collect
  split
  · exact service.leave_spares ticket
  · exact .refl service

theorem serve_spares (id : WorkerId) (jobs : Nat) :
    service.Spares (service.serve now id jobs).1 := by
  induction jobs generalizing service with
  | zero => exact .refl service
  | succ jobs ih =>
      unfold serve
      split
      · exact .refl service
      · split
        · split <;> exact ⟨rfl, rfl⟩
        · next shell _ job shell' _ =>
            have took : service.Spares (service.withShell id.shell shell') := ⟨rfl, rfl⟩
            have evaluated := (service.withShell id.shell shell').evaluate_spares now job.request
            split
            · next ran => exact took.trans (.ofRun ran evaluated)
            · next service' result ran =>
                have finished := service'.updateShell_spares id.shell fun shell =>
                  (shell.finish id.worker job result).arrive id.worker
                exact took.trans ((Spares.ofRun ran evaluated).trans (finished.trans (ih _)))

theorem runWorker_spares (id : WorkerId) (phase : WorkerPhase) :
    service.Spares (service.runWorker now id phase).1 := by
  cases phase with
  | fresh =>
      have arrived := service.updateShell_spares id.shell fun shell => shell.arrive id.worker
      exact arrived.trans (serve_spares _ now id _)
  | idle => exact service.serve_spares now id _
  | evaluating job evaluation =>
      have resumed := service.resumeEvaluation_spares now evaluation
      simp only [runWorker]
      split
      · next ran => exact .ofRun ran resumed
      · next service' result ran =>
          have finished := service'.updateShell_spares id.shell fun shell =>
            (shell.finish id.worker job result).arrive id.worker
          exact (Spares.ofRun ran resumed).trans (finished.trans (serve_spares _ now id _))

/-! ## Answers -/

/-- The response with a result, or with the reason why it cannot be written. -/
def resultResponse (codec : Codec) (result : FinalResult) : HttpResponse :=
  match codec.encodeResult result with
  | .ok body => ⟨200, codec.contentType, body⟩
  | .error fault => unwrittenResponse fault

variable (codec : Codec)

theorem answerResult_response (result : FinalResult) :
    (service.answerResult codec result).2 = .done (resultResponse codec result) := by
  unfold answerResult resultResponse
  cases codec.encodeResult result <;> rfl

theorem answerResult_spares (result : FinalResult) :
    service.Spares (service.answerResult codec result).1 := by
  unfold answerResult
  cases codec.encodeResult result <;> exact ⟨rfl, rfl⟩

theorem awaitResult_spares (ticket : Ticket) (deadline : Nat) :
    service.Spares (service.awaitResult now codec ticket deadline).1 := by
  have collected := service.collect_spares ticket
  unfold awaitResult
  split
  · next ran => exact (Spares.ofRun ran collected).trans (answerResult_spares _ codec _)
  · next ran =>
      split
      · exact (Spares.ofRun ran collected).trans (.trans (leave_spares _ _) ⟨rfl, rfl⟩)
      · exact .ofRun ran collected

theorem answerBody_spares (options : ServerOptions) (body : ByteArray) :
    service.Spares (service.answerBody now codec options body).1 := by
  simp only [answerBody, freshNumber]
  split
  · exact ⟨rfl, rfl⟩
  · next request _ =>
      have numbered : service.Spares { service with nextNumber := service.nextNumber + 1 } :=
        ⟨rfl, rfl⟩
      split
      · next ran => exact numbered.trans (.ofRun ran (submit_spares _ request))
      · next ran =>
          have submitted := numbered.trans (.ofRun ran (submit_spares _ request))
          exact submitted.trans (awaitResult_spares _ now codec _ _)

theorem answerAuthorization_spares (options : ServerOptions) (request : HttpRequest) :
    service.Spares (service.answerAuthorization now codec options request).1 := by
  simp only [answerAuthorization]
  split
  · exact ⟨rfl, rfl⟩
  · split
    · exact ⟨rfl, rfl⟩
    · split
      · exact service.answerBody_spares now codec options request.body
      · exact .refl service

/-! ## Starting and stopping -/

theorem dismissLoop_leaves : service.LeavesPolicy service.dismissLoop.1 :=
  ⟨rfl, rfl, rfl, rfl, rfl⟩

theorem startRefresh_leaves (service' : Service) (started : service.startRefresh = .ok service') :
    service.LeavesPolicy service' := by
  simp only [startRefresh] at started
  split at started
  · cases started
  · next cache ran =>
      cases started
      unfold PolicyCache.startRefresh at ran
      split at ran
      · cases ran
      · split at ran
        · cases ran
        · cases ran
          exact ⟨rfl, rfl, rfl, rfl, rfl⟩

theorem rollBack_spares (fault : ServiceFault) (points : List Point) :
    service.Spares (service.rollBack fault points).1 := by
  cases points <;> exact ⟨rfl, rfl⟩

theorem stopPoints_spares (points : List Point) :
    service.Spares (service.stopPoints points).1 := by
  cases points <;> exact ⟨rfl, rfl⟩

theorem openAdmission_leaves : service.LeavesPolicy service.openAdmission.1 := by
  have dismissed := service.dismissLoop_leaves
  unfold openAdmission
  split
  · exact .refl _
  · generalize service.dismissLoop = run at dismissed ⊢
    split
    · exact dismissed
    · exact dismissed.trans (rollBack_spares _ _ _).leaves

theorem stopRefresh_leaves : service.LeavesPolicy service.stopRefresh.1 := by
  have dismissed := service.dismissLoop_leaves
  unfold stopRefresh
  generalize service.dismissLoop = run at dismissed ⊢
  split
  · exact dismissed
  · exact dismissed.trans (stopPoints_spares _ _).leaves

theorem shutdown_leaves (phase : StopPhase) : service.LeavesPolicy (service.shutdown phase).1 := by
  cases phase with
  | fresh =>
      simp only [shutdown]
      split
      · exact service.stopRefresh_leaves
      · split
        · exact stopRefresh_leaves { service with admission := none }
        · exact .refl _
  | draining number =>
      simp only [shutdown]
      split
      · exact service.stopRefresh_leaves
      · exact .refl _
  | stoppingLoop number =>
      simp only [shutdown]
      split
      · exact (service.stopPoints_spares _).leaves
      · exact .refl _
  | stoppingPoint later => exact (service.stopPoints_spares later).leaves

end Functions

end Service

end DecisionPoint
