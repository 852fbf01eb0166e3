import DecisionPoint.Proofs.Schedule.Ledger
import DecisionPoint.Proofs.Service.Recording

/-!
# What is recorded in a run

The results that are recorded in a run are those that the looks of its ledger have come to, and the
troubles are those that its answers tell of.
-/

set_option autoImplicit false

namespace DecisionPoint

open Journal (Trouble)

def Answer.trouble? : Answer → Option Trouble
  | responded response => response.trouble?
  | authorized result => troubleOf? result
  | _ => none

def Happening.trouble? : Happening → Option Trouble
  | turn _ (.done answer) => answer.trouble?
  | _ => none

/-- Leaving out the body does not hide a trouble, but that there is no room is told by the body. -/
theorem HttpResponse.trouble?_sentTo (response : HttpResponse) (request : HttpRequest)
    (visible : response.trouble? = some .busy → request.verb ≠ "HEAD") :
    (response.sentTo request).trouble? = response.trouble? := by
  unfold sentTo
  split
  · next headersOnly =>
      have room : response ≠ Service.refusalResponse .busy := by
        intro busy
        exact visible (by rw [trouble?, if_pos busy]) headersOnly
      have silent : { response with body := "" } ≠ Service.refusalResponse .busy := by
        intro busy
        have emptied : "" = (Service.refusalResponse .busy).body := congrArg HttpResponse.body busy
        exact absurd emptied (by decide)
      rw [trouble?, if_neg silent, trouble?, if_neg room]
  · rfl

theorem Happening.trouble?_turn (activity : Activity) (progress : Progress Answer Activity) :
    (turn activity progress).trouble? = progress.result?.bind Answer.trouble? := by
  cases progress <;> rfl

namespace Activity

variable (service : Service) (surroundings : Surroundings) (now : Nat)

/-- What is recorded in a turn of an activity that looks at no evaluations. -/
def Accrues (run : Run) : Prop :=
  service.Accrues [] (run.2.result?.bind Answer.trouble?).toList run.1

theorem Accrues.ofMap {α φ : Type} {service after : Service} (f : α → Answer)
    (g : φ → Activity) (silent : ∀ result, (f result).trouble? = none) (progress : Progress α φ)
    (accrues : service.Accrues [] [] after) :
    Accrues service (after, progress.map f g) := by
  cases progress with
  | done result => simpa [Accrues, Progress.map, Progress.result?, silent] using accrues
  | waiting phase => exact accrues

theorem afterRefresh_accrues (giveUp : Option Nat)
    (run : PolicyCache × Journal × Progress RefreshOutcome FetchWait)
    (administers : Administers (service.cache, service.journal) (run.1, run.2.1)) :
    Accrues service (afterRefresh service now giveUp run) := by
  obtain ⟨cache, journal, progress⟩ := run
  cases progress with
  | done outcome => exact service.withCache_accrues cache journal administers
  | waiting wait =>
      simp only [afterRefresh]
      split
      · exact service.withCache_accrues _ _
          (administers.trans (Administers.keepsTo.releases cache journal))
      · exact service.withCache_accrues cache journal administers

theorem afterGate_accrues (retries backoff : Nat) (run : PolicyCache.GateRun)
    (administers : Administers (service.cache, service.journal) (run.1, run.2.1)) :
    Accrues service (afterGate service retries backoff run) := by
  obtain ⟨cache, journal, progress⟩ := run
  cases progress <;> exact service.withCache_accrues cache journal administers

theorem awaitTicket_accrues (giveUp : Option Nat) (request : Request) (ticket : Ticket) :
    Accrues service (awaitTicket service now giveUp request ticket) := by
  have collected := service.collect_accrues ticket
  unfold awaitTicket
  generalize service.collect ticket = run at collected ⊢
  obtain ⟨service', progress⟩ := run
  cases progress with
  | done result => exact collected
  | waiting ticket' =>
      simp only
      split
      · exact collected.trans (Service.leave_accrues _ _)
      · exact collected

theorem part_accrues (activity : Activity) (other : activity.isLooking = false) :
    Accrues service (activity.part service surroundings now) := by
  have keeps := Administers.keepsTo
  cases activity with
  | worker id phase => cases other
  | evaluating request evaluation => cases other
  | loop number phase =>
      exact .ofMap _ _ (fun _ => rfl) _ (service.runLoop_accrues now number phase)
  | starting phase => exact .ofMap _ _ (fun _ => rfl) _ (service.start_accrues now phase)
  | stopping phase => exact .ofMap _ _ (fun _ => rfl) _ (service.shutdown_accrues phase)
  | refreshing giveUp wait =>
      cases wait with
      | none =>
          exact afterRefresh_accrues service now giveUp _
            (keeps.refresh service.cache service.journal now)
      | some wait =>
          exact afterRefresh_accrues service now giveUp _
            (keeps.resume service.cache service.journal now wait)
  | gating retries backoff gate =>
      cases gate with
      | none =>
          exact afterGate_accrues service retries backoff _
            (keeps.gate service.cache service.journal now backoff retries)
      | some phase =>
          exact afterGate_accrues service retries backoff _
            (keeps.resumeGate service.cache service.journal now backoff phase)
  | stoppingLoop number =>
      cases number with
      | none =>
          have dismissed := service.dismissLoop_accrues
          simp only [part, run]
          generalize service.dismissLoop = result at dismissed ⊢
          obtain ⟨service', loop⟩ := result
          cases loop <;> exact dismissed
      | some number =>
          simp only [part, run]
          split <;> exact .refl service
  | authorizing giveUp request ticket =>
      cases ticket with
      | none =>
          have submitted := service.submit_accrues request
          simp only [part, run]
          generalize service.submit request = result at submitted ⊢
          obtain ⟨service', answer⟩ := result
          cases answer with
          | error fault => exact submitted
          | ok ticket =>
              exact submitted.trans (awaitTicket_accrues service' now giveUp request ticket)
      | some ticket => exact awaitTicket_accrues service now giveUp request ticket
  | answering listener request phase =>
      have answered := service.answer_accrues now surroundings.codec surroundings.server
        surroundings.metrics listener request phase
      simp only [part, run]
      have visible := service.answer_busy now surroundings.codec surroundings.server
        surroundings.metrics listener request phase
      generalize service.answer now surroundings.codec surroundings.server surroundings.metrics
        listener request phase = result at answered visible ⊢
      obtain ⟨service', progress⟩ := result
      cases progress with
      | done response =>
          have shown := response.trouble?_sentTo request fun busy headersOnly =>
            absurd ((visible response rfl busy).symm.trans headersOnly) (by decide)
          simpa [Accrues, Progress.map, Progress.result?, Answer.trouble?, shown] using answered
      | waiting phase' => exact answered
  | pausing time =>
      simp only [part, run]
      split <;> exact .refl service

theorem dropFrom_accrues (activity : Activity) :
    service.Accrues [] [] (activity.dropFrom service) := by
  unfold dropFrom
  split
  · exact service.withCache_accrues _ _
      (Administers.keepsTo.releases service.cache service.journal)
  · split
    · exact service.leave_accrues _
    · exact service.leave_accrues _
    · exact .refl service

end Activity

def Happening.isLooking : Happening → Bool
  | turn activity _ => activity.isLooking
  | _ => false

theorem looksIn_eq_nil {deeds : List Deed} (none : ∀ look, .looked look ∉ deeds) :
    looksIn deeds = [] := by
  rw [looksIn, List.filterMap_eq_nil_iff]
  intro deed mem
  cases deed with
  | looked look => exact absurd mem (none look)
  | _ => rfl

namespace World

theorem Step.accrues {world next : World} {happening : Happening}
    (step : Step world happening next) (other : happening.isLooking = false) :
    world.service.Accrues [] happening.trouble?.toList next.service := by
  cases step with
  | time later forward => exact .refl _
  | source source => exact .ofSame rfl rfl rfl
  | registry registry => exact .ofSame rfl rfl rfl
  | loopStarts service started => exact world.service.startRefresh_accrues service started
  | joins => exact .ofSame rfl rfl rfl
  | begins activity fresh => exact .refl _
  | turns left right activity service progress split ran =>
      have accrues :=
        Activity.part_accrues world.service world.surroundings world.now activity other
      rw [ran] at accrues
      rw [Happening.trouble?_turn]
      exact accrues
  | overlooks left right number phase phase' cache journal split ran =>
      have administers := Administers.keepsTo.runLoop world.service.cache world.service.journal
        world.now false phase
      rw [ran] at administers
      exact world.service.withCache_accrues cache journal administers
  | drops left right activity split droppable =>
      exact Activity.dropFrom_accrues world.service activity

/-- What is recorded when something happens: the results of the looks that are taken, and the
trouble that an answer tells of. -/
theorem Acts.accrues {world next : World} {happening : Happening} {deeds : List Deed}
    (step : Step world happening next) (acts : Acts world happening deeds next.service) :
    world.service.Accrues ((looksIn deeds).filterMap Look.result?) happening.trouble?.toList
      next.service := by
  have others := step.accrues
  generalize next.service = after at acts others ⊢
  cases acts with
  | rests quiet rests =>
      refine others ?_
      cases happening <;> first | rfl | cases quiet
  | joins => exact others rfl
  | loopStarts governs => exact others rfl
  | @worker id phase deeds after progress turn =>
      have silent : (Happening.turn (.worker id phase)
          (progress.map (fun _ => .ended) (.worker id))).trouble? = none := by
        cases progress <;> rfl
      rw [silent]
      exact turn.accrues
  | evaluates look service now =>
      have silent : (Happening.turn (.evaluating look.request look.waited)
          look.progress).trouble? = none := by
        unfold Look.progress
        cases look.run.2 <;> rfl
      rw [silent, ← service, results_looksIn_cons]
      exact look.accrues.trans (.refl _)
  | does other does =>
      rw [looksIn_eq_nil does.does.looks]
      exact others other
  | drops does =>
      rw [looksIn_eq_nil does.does.looks]
      exact others rfl

def troublesIn (happenings : List Happening) : List Trouble :=
  happenings.filterMap Happening.trouble?

/-- What is recorded in a run: the results of all looks, and the troubles of all answers. -/
theorem Ledger.accrues {beginning world : World} {happenings : List Happening} {deeds : List Deed}
    (ledger : Ledger beginning happenings world deeds) :
    beginning.service.Accrues ((looksIn deeds).filterMap Look.result?) (troublesIn happenings)
      world.service := by
  induction ledger with
  | start => exact .refl _
  | @step happenings world next happening deeds later earlier step acts ih =>
      have last : troublesIn [happening] = happening.trouble?.toList := by
        cases told : happening.trouble? <;> simp [troublesIn, told]
      rw [looksIn, List.filterMap_append, List.filterMap_append, troublesIn, List.filterMap_append]
      have both := ih.trans (acts.accrues step)
      rw [← last] at both
      exact both

end World

end DecisionPoint
