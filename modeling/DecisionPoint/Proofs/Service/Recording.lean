import DecisionPoint.Proofs.Evaluation.Looks
import DecisionPoint.Proofs.Obligation.Walk
import DecisionPoint.Proofs.Policy.Keeping

/-!
# What the service records

Whatever the service does, it records by entries: one for each obligation that a handler fulfils,
one for each result, and one for each response that tells of trouble with a request.
-/

set_option autoImplicit false

namespace DecisionPoint

open Journal (Entry Trouble)

def Call.fulfils (id : String) : Call → Bool
  | fulfil handler obligation outcome request =>
    obligation.id = id ∧ handler.apply request outcome obligation = .fulfilled
  | _ => false

def HttpResponse.trouble? (response : HttpResponse) : Option Trouble :=
  if response = Service.refusalResponse .busy then some .busy
  else
    match response.status with
    | 408 | 500 | 504 => some .transport
    | _ => none

theorem HttpResponse.status_of_busy {response : HttpResponse}
    (busy : response.trouble? = some .busy) : response.status = 503 := by
  unfold trouble? at busy
  split at busy
  · next same => rw [same, Service.refusalResponse, plain]
  · split at busy <;> cases busy

def AdmissionFault.trouble? : AdmissionFault → Option Trouble
  | busy => some .busy
  | closed => none

def troubleOf? {α : Type} : Except AdmissionFault α → Option Trouble
  | .error fault => fault.trouble?
  | .ok _ => none

namespace Journal

theorem enterAll_fulfilled (journal : Journal) (ids : List String) :
    journal.enterAll (ids.map .fulfilled) = journal.obligationsFulfilled ids := by
  induction ids generalizing journal with
  | nil => rfl
  | cons id rest ih => exact ih (journal.enter (.fulfilled id))

end Journal

namespace Service

/-- Some entries have been made; those of fulfilled obligations go with the calls that were made. -/
structure Notes (before : Service) (entries : List Entry) (after : Service) : Prop where
  enters : Enters (before.cache, before.journal) entries (after.cache, after.journal)
  calls : ∀ id, after.calls.countP (Call.fulfils id) =
    before.calls.countP (Call.fulfils id) + entries.countP (Entry.fulfils id)

theorem Notes.trans {a b c : Service} {entries later : List Entry} (first : a.Notes entries b)
    (second : b.Notes later c) : a.Notes (entries ++ later) c := by
  refine ⟨first.enters.trans second.enters, ?_⟩
  intro id
  rw [second.calls, first.calls, List.countP_append, Nat.add_assoc]

theorem Notes.single {before after : Service} {entry : Entry}
    (cache : after.cache = before.cache) (journal : after.journal = before.journal.enter entry)
    (calls : after.calls = before.calls) (publishes : entry.publishes = false)
    (fulfils : ∀ id, entry.fulfils id = false) : before.Notes [entry] after := by
  refine ⟨⟨journal, ?_⟩, ?_⟩
  · simp [cache, publishes]
  · simp [calls, fulfils]

/-- Results and troubles have been recorded, and whatever else is recorded. -/
def Accrues (before : Service) (results : List FinalResult) (troubles : List Trouble)
    (after : Service) : Prop :=
  ∃ entries, before.Notes entries after ∧ Journal.resultsOf entries = results ∧
    Journal.troublesOf entries = troubles

theorem Accrues.trans {a b c : Service} {results results' : List FinalResult}
    {troubles troubles' : List Trouble} (first : a.Accrues results troubles b)
    (second : b.Accrues results' troubles' c) :
    a.Accrues (results ++ results') (troubles ++ troubles') c := by
  obtain ⟨entries, notes, rfl, rfl⟩ := first
  obtain ⟨later, notes', rfl, rfl⟩ := second
  exact ⟨entries ++ later, notes.trans notes', Journal.resultsOf_append _ _,
    Journal.troublesOf_append _ _⟩

theorem Accrues.ofPolicy {before after : Service}
    (administers : Administers (before.cache, before.journal) (after.cache, after.journal))
    (calls : ∀ id, after.calls.countP (Call.fulfils id) = before.calls.countP (Call.fulfils id)) :
    before.Accrues [] [] after := by
  obtain ⟨entries, enters, ofPolicy⟩ := administers
  refine ⟨entries, ⟨enters, ?_⟩, ?_, ?_⟩
  · intro id
    have none : entries.countP (Entry.fulfils id) = 0 := by
      rw [List.countP_eq_zero]
      intro entry mem
      have own := ofPolicy entry mem
      cases entry <;> simp_all [Entry.isOfPolicy, Entry.fulfils]
    rw [calls, none, Nat.add_zero]
  · rw [Journal.resultsOf, List.filterMap_eq_nil_iff]
    intro entry mem
    have own := ofPolicy entry mem
    cases entry <;> simp_all [Entry.isOfPolicy, Entry.result?]
  · rw [Journal.troublesOf, List.filterMap_eq_nil_iff]
    intro entry mem
    have own := ofPolicy entry mem
    cases entry <;> simp_all [Entry.isOfPolicy, Entry.trouble?]

theorem Accrues.ofSame {before after : Service} (cache : after.cache.generation =
    before.cache.generation) (journal : after.journal = before.journal)
    (calls : after.calls = before.calls) : before.Accrues [] [] after :=
  .ofPolicy (.ofSame journal cache) fun id => by rw [calls]

theorem Accrues.refl (service : Service) : service.Accrues [] [] service := .ofSame rfl rfl rfl

theorem Accrues.single {before after : Service} (entry : Entry)
    (cache : after.cache = before.cache) (journal : after.journal = before.journal.enter entry)
    (calls : after.calls = before.calls) (publishes : entry.publishes = false)
    (fulfils : ∀ id, entry.fulfils id = false) :
    before.Accrues entry.result?.toList entry.trouble?.toList after := by
  refine ⟨[entry], .single cache journal calls publishes fulfils, ?_, ?_⟩
  · rw [Journal.resultsOf_cons]
    exact List.append_nil _
  · rw [Journal.troublesOf_cons]
    exact List.append_nil _

section Functions

variable (service : Service) (now : Nat)

/-! ## Evaluations -/

theorem complete_accrues (occasion : Occasion) (policy : Option PolicySnapshot)
    (verdict : Verdict) :
    service.Accrues [(service.complete now occasion policy verdict).2] []
      (service.complete now occasion policy verdict).1 :=
  .single (.evaluated _) rfl rfl rfl rfl fun _ => rfl

theorem conclude_fulfils (policy : PolicySnapshot) (request : Request) (id : String) :
    (service.pipeline.conclude service.registry policy request).calls.countP (Call.fulfils id) =
      (service.pipeline.conclude service.registry policy request).fulfilled.count id := by
  unfold Pipeline.conclude
  simp only
  split
  · rfl
  · have walked := HandlerRegistry.count_fulfilled_walk
    split <;>
      simp [HandlerRegistry.process, walked, List.countP_map, Function.comp_def, Call.fulfils]

theorem concluded_accrues (policy : PolicySnapshot) (request : Request) :
    service.Accrues [] []
      { service.called (service.pipeline.conclude service.registry policy request).calls with
        journal := service.journal.obligationsFulfilled
          (service.pipeline.conclude service.registry policy request).fulfilled } := by
  refine ⟨(service.pipeline.conclude service.registry policy request).fulfilled.map .fulfilled,
    ⟨⟨(Journal.enterAll_fulfilled _ _).symm, ?_⟩, ?_⟩, ?_, ?_⟩
  · have none (ids : List String) : (ids.map Entry.fulfilled).countP Entry.publishes = 0 := by
      simp [List.countP_map, Function.comp_def, Entry.publishes]
    simp [none, called]
  · intro id
    have own := service.conclude_fulfils policy request id
    simp [called, own, List.countP_map, Function.comp_def, Entry.fulfils, List.count,
      beq_eq_decide]
  · simp [Journal.resultsOf, List.filterMap_map, Function.comp_def, Entry.result?]
  · simp [Journal.troublesOf, List.filterMap_map, Function.comp_def, Entry.trouble?]

theorem proceed_accrues (occasion : Occasion) (policy : PolicySnapshot)
    (work : Pipeline.Enriching) (enriches : Pipeline.OnlyEnriches work) :
    service.Accrues (service.proceed now occasion policy work).2.result?.toList []
      (service.proceed now occasion policy work).1 := by
  have called : service.Accrues [] [] (service.called work.calls) := by
    refine .ofPolicy (.ofSame rfl rfl) ?_
    intro id
    have none : work.calls.countP (Call.fulfils id) = 0 := by
      rw [List.countP_eq_zero]
      intro call mem
      obtain ⟨point, request, rfl⟩ := enriches.1 call mem
      simp [Call.fulfils]
    simp [Service.called, none]
  unfold proceed
  simp only
  split
  · exact called
  · exact called.trans (complete_accrues _ now occasion (some policy) _)
  · next request done =>
      have concluded := (service.called work.calls).concluded_accrues policy request
      exact called.trans (concluded.trans (complete_accrues _ now occasion (some policy) _))

theorem evaluate_accrues (request : Request) :
    service.Accrues (service.evaluate now request).2.result?.toList []
      (service.evaluate now request).1 := by
  unfold evaluate
  split
  · exact service.complete_accrues now (.of request) none (.failed .policyUnavailable none)
  · exact service.proceed_accrues now (.of request) _ _
      (Pipeline.enrichBy_onlyEnriches _ now _ request)

theorem resumeEvaluation_accrues (evaluation : Evaluation) :
    service.Accrues (service.resumeEvaluation now evaluation).2.result?.toList []
      (service.resumeEvaluation now evaluation).1 :=
  service.proceed_accrues now _ _ _ (Pipeline.resumeEnriching_onlyEnriches _ now evaluation.wait)

/-! ## Requests -/

theorem withShell_accrues (number : Nat) (shell : Shell) :
    service.Accrues [] [] (service.withShell number shell) := .ofSame rfl rfl rfl

theorem updateShell_accrues (number : Nat) (update : Shell → Shell) :
    service.Accrues [] [] (service.updateShell number update) := by
  unfold updateShell
  split
  · exact .refl service
  · exact service.withShell_accrues number _

theorem leave_accrues (ticket : Ticket) : service.Accrues [] [] (service.leave ticket) := by
  unfold leave
  split
  · exact .refl service
  · exact service.withShell_accrues ticket.shell _

theorem submit_accrues (request : Request) :
    service.Accrues [] (troubleOf? (service.submit request).2).toList
      (service.submit request).1 := by
  unfold submit
  split
  · exact .refl service
  · split
    · exact .refl service
    · simp only [freshNumber]
      split
      · exact .ofSame rfl rfl rfl
      · exact .single .rejected rfl rfl rfl rfl fun _ => rfl
      · exact .ofSame rfl rfl rfl

theorem collect_accrues (ticket : Ticket) :
    service.Accrues [] [] (service.collect ticket).1 := by
  unfold collect
  split
  · exact service.leave_accrues ticket
  · exact .refl service

/-! ## Answers -/

theorem answerError_accrues (kind : String) (response : HttpResponse) :
    service.Accrues [] [.transport] (service.answerError kind response).1 :=
  .single (.failed kind) rfl rfl rfl rfl fun _ => rfl

variable (codec : Codec)

theorem answerResult_accrues (result : FinalResult) :
    service.Accrues []
      ((service.answerResult codec result).2.result?.bind HttpResponse.trouble?).toList
      (service.answerResult codec result).1 := by
  unfold answerResult
  cases codec.encodeResult result with
  | ok body => exact .refl service
  | error fault => exact service.answerError_accrues "encode" _

theorem awaitResult_accrues (ticket : Ticket) (deadline : Nat) :
    service.Accrues []
      ((service.awaitResult now codec ticket deadline).2.result?.bind
        HttpResponse.trouble?).toList
      (service.awaitResult now codec ticket deadline).1 := by
  have collected := service.collect_accrues ticket
  unfold awaitResult
  generalize service.collect ticket = run at collected ⊢
  obtain ⟨service', progress⟩ := run
  cases progress with
  | done result => exact collected.trans (service'.answerResult_accrues codec result)
  | waiting ticket' =>
      simp only
      split
      · exact collected.trans ((leave_accrues _ _).trans (answerError_accrues _ "timeout" _))
      · exact collected

theorem answerBody_accrues (options : ServerOptions) (body : ByteArray) :
    service.Accrues []
      ((service.answerBody now codec options body).2.result?.bind HttpResponse.trouble?).toList
      (service.answerBody now codec options body).1 := by
  have numbered : service.Accrues [] [] { service with nextNumber := service.nextNumber + 1 } :=
    .ofSame rfl rfl rfl
  simp only [answerBody, freshNumber]
  split
  · exact numbered.trans (answerError_accrues _ "decode" _)
  · next request _ =>
      have submitted := numbered.trans (submit_accrues _ request)
      generalize submit { service with nextNumber := service.nextNumber + 1 } request = run
        at submitted ⊢
      obtain ⟨service', answer⟩ := run
      cases answer with
      | error fault => cases fault <;> exact submitted
      | ok ticket => exact submitted.trans (awaitResult_accrues _ now codec ticket _)

theorem answerAuthorization_accrues (options : ServerOptions) (request : HttpRequest) :
    service.Accrues []
      ((service.answerAuthorization now codec options request).2.result?.bind
        HttpResponse.trouble?).toList
      (service.answerAuthorization now codec options request).1 := by
  simp only [answerAuthorization]
  split
  · exact service.answerError_accrues "body_timeout" _
  · split
    · exact service.answerError_accrues "decode" _
    · split
      · exact service.answerBody_accrues now codec options request.body
      · exact .refl service

theorem withCache_accrues (cache : PolicyCache) (journal : Journal)
    (administers : Administers (service.cache, service.journal) (cache, journal)) :
    service.Accrues [] [] (service.withCache cache journal) :=
  .ofPolicy administers fun _ => rfl

theorem afterReload_accrues (run : PolicyCache × Journal × Progress RefreshOutcome FetchWait)
    (administers : Administers (service.cache, service.journal) (run.1, run.2.1)) :
    service.Accrues [] ((service.afterReload run).2.result?.bind HttpResponse.trouble?).toList
      (service.afterReload run).1 := by
  obtain ⟨cache, journal, progress⟩ := run
  have kept := service.withCache_accrues cache journal administers
  cases progress with
  | done outcome => cases outcome <;> exact kept
  | waiting wait => exact kept

theorem answer_accrues (options : ServerOptions) (metrics : Bool) (listener : Listener)
    (request : HttpRequest) (phase : ExchangePhase) :
    service.Accrues []
      ((service.answer now codec options metrics listener request phase).2.result?.bind
        HttpResponse.trouble?).toList
      (service.answer now codec options metrics listener request phase).1 := by
  have reload := service.afterReload_accrues _
    (Administers.keepsTo.refresh service.cache service.journal now)
  cases phase with
  | fresh =>
      simp only [answer]
      split
      · exact service.answerAuthorization_accrues now codec options request
      · exact .refl service
      · exact .refl service
      · exact reload
      · exact reload
      · unfold healthResponse
        cases service.isRunning <;> exact .refl service
      · cases metrics <;> exact .refl service
      · exact .refl service
  | reading deadline =>
      simp only [answer]
      split
      · exact service.answerError_accrues "body_timeout" _
      · exact .refl service
  | authorizing ticket deadline => exact service.awaitResult_accrues now codec ticket deadline
  | reloading wait =>
      exact service.afterReload_accrues _
        (Administers.keepsTo.resume service.cache service.journal now wait)

theorem answer_busy (options : ServerOptions) (metrics : Bool) (listener : Listener)
    (request : HttpRequest) (phase : ExchangePhase) (response : HttpResponse)
    (answered :
      (service.answer now codec options metrics listener request phase).2 = .done response)
    (busy : response.trouble? = some .busy) : request.verb = "POST" := by
  have reloaded (run : PolicyCache × Journal × Progress RefreshOutcome FetchWait)
      (answered : (service.afterReload run).2 = .done response) : request.verb = "POST" := by
    obtain ⟨cache, journal, progress⟩ := run
    cases progress with
    | done outcome => cases outcome <;> cases answered <;> cases busy
    | waiting wait => cases answered
  cases phase with
  | fresh =>
      simp only [answer] at answered
      split at answered
      · assumption
      · cases answered
        cases busy
      · cases answered
        cases busy
      · exact reloaded _ answered
      · exact reloaded _ answered
      · cases answered
        unfold healthResponse at busy
        cases running : service.isRunning <;> rw [running] at busy <;> cases busy
      · cases answered
        cases metrics <;> cases busy
      · cases answered
        cases busy
  | reading deadline =>
      simp only [answer] at answered
      split at answered
      · cases answered
        cases busy
      · cases answered
  | authorizing ticket deadline =>
      simp only [answer, awaitResult] at answered
      split at answered
      · next result _ =>
          rw [answerResult_response] at answered
          cases answered
          have told := HttpResponse.status_of_busy busy
          unfold resultResponse at told
          split at told <;> cases told
      · split at answered
        · cases answered
          cases busy
        · cases answered
  | reloading wait => exact reloaded _ answered

/-! ## Starting and stopping -/

theorem called_accrues (call : Call) (other : ∀ id, call.fulfils id = false) :
    service.Accrues [] [] (service.called [call]) := by
  refine .ofPolicy (.ofSame rfl rfl) ?_
  intro id
  simp [called, other]

theorem dismissLoop_accrues : service.Accrues [] [] service.dismissLoop.1 := .ofSame rfl rfl rfl

theorem startRefresh_accrues (service' : Service) (started : service.startRefresh = .ok service') :
    service.Accrues [] [] service' := by
  simp only [startRefresh] at started
  split at started
  · cases started
  · next cache ran =>
      cases started
      unfold PolicyCache.startRefresh at ran
      split at ran
      · cases ran
      · split at ran
        · cases ran
        · cases ran
          exact .ofSame rfl rfl rfl

theorem rollBack_accrues (fault : ServiceFault) (points : List Point) :
    service.Accrues [] [] (service.rollBack fault points).1 := by
  cases points with
  | nil => exact .refl service
  | cons point later => exact service.called_accrues (.stop point) fun _ => rfl

theorem stopPoints_accrues (points : List Point) :
    service.Accrues [] [] (service.stopPoints points).1 := by
  cases points with
  | nil => exact .refl service
  | cons point later => exact service.called_accrues (.stop point) fun _ => rfl

theorem openAdmission_accrues : service.Accrues [] [] service.openAdmission.1 := by
  have dismissed := service.dismissLoop_accrues
  unfold openAdmission
  split
  · exact .ofSame rfl rfl rfl
  · generalize service.dismissLoop = run at dismissed ⊢
    split
    · exact dismissed
    · exact dismissed.trans (rollBack_accrues _ _ _)

theorem afterGate_accrues (run : PolicyCache.GateRun)
    (administers : Administers (service.cache, service.journal) (run.1, run.2.1)) :
    service.Accrues [] [] (service.afterGate run).1 := by
  obtain ⟨cache, journal, progress⟩ := run
  have kept := service.withCache_accrues cache journal administers
  cases progress with
  | waiting gate => exact kept
  | done ready => exact kept.trans (openAdmission_accrues _)

theorem startPoints_accrues (started later : List Point) :
    service.Accrues [] [] (service.startPoints now started later).1 := by
  cases later with
  | cons point rest => exact service.called_accrues (.start point) fun _ => rfl
  | nil =>
      simp only [startPoints]
      split
      · exact service.rollBack_accrues _ _
      · next service' begun =>
          exact (service.startRefresh_accrues service' begun).trans (afterGate_accrues _ _
            (Administers.keepsTo.gate service'.cache service'.journal now _ _))

theorem start_accrues (phase : StartPhase) :
    service.Accrues [] [] (service.start now phase).1 := by
  cases phase with
  | fresh =>
      simp only [start]
      split
      · exact .refl service
      · exact service.startPoints_accrues now [] _
  | startingPoint started point later =>
      simp only [start]
      split
      · exact service.startPoints_accrues now _ later
      · exact service.rollBack_accrues _ _
  | gating gate =>
      exact service.afterGate_accrues _
        (Administers.keepsTo.resumeGate service.cache service.journal now _ gate)
  | stoppingLoop number fault =>
      simp only [start]
      split
      · exact service.rollBack_accrues _ _
      · exact .refl service
  | stoppingPoint later fault => exact service.rollBack_accrues fault later

theorem stopRefresh_accrues : service.Accrues [] [] service.stopRefresh.1 := by
  have dismissed := service.dismissLoop_accrues
  unfold stopRefresh
  generalize service.dismissLoop = run at dismissed ⊢
  split
  · exact dismissed
  · exact dismissed.trans (stopPoints_accrues _ _)

theorem shutdown_accrues (phase : StopPhase) :
    service.Accrues [] [] (service.shutdown phase).1 := by
  cases phase with
  | fresh =>
      simp only [shutdown]
      split
      · exact service.stopRefresh_accrues
      · split
        · have shut : service.Accrues [] [] { service with admission := none } :=
            .ofSame rfl rfl rfl
          exact shut.trans (stopRefresh_accrues _)
        · exact .ofSame rfl rfl rfl
  | draining number =>
      simp only [shutdown]
      split
      · exact service.stopRefresh_accrues
      · exact .refl service
  | stoppingLoop number =>
      simp only [shutdown]
      split
      · exact service.stopPoints_accrues _
      · exact .refl service
  | stoppingPoint later => exact service.stopPoints_accrues later

theorem runLoop_accrues (number : Nat) (phase : LoopPhase) :
    service.Accrues [] [] (service.runLoop now number phase).1 := by
  have administers := Administers.keepsTo.runLoop service.cache service.journal now
    (service.stopping.contains number) phase
  unfold runLoop
  generalize service.cache.runLoop service.journal now (service.stopping.contains number) phase =
    run at administers ⊢
  obtain ⟨cache, journal, progress⟩ := run
  have kept := service.withCache_accrues cache journal administers
  cases progress with
  | waiting phase' => exact kept
  | done _ => exact kept.trans (.ofSame rfl rfl rfl)

end Functions

end Service

/-! ## Looks and workers -/

theorem Look.accrues (look : Look) :
    look.service.Accrues look.result?.toList [] look.run.1 := by
  unfold Look.result? run
  cases look.waited with
  | none => exact look.service.evaluate_accrues look.now look.request
  | some evaluation => exact look.service.resumeEvaluation_accrues look.now evaluation

theorem results_looksIn_cons (deed : Deed) (deeds : List Deed) :
    (looksIn (deed :: deeds)).filterMap Look.result? =
      (deed.look?.bind Look.result?).toList ++ (looksIn deeds).filterMap Look.result? := by
  cases held : deed.look? with
  | none => simp [looksIn, held]
  | some look => cases seen : look.result? <;> simp [looksIn, held, seen]

theorem Look.accrues_of_run {look : Look} {after : Service}
    {progress : Progress FinalResult Evaluation} (ran : look.run = (after, progress)) :
    look.service.Accrues look.result?.toList [] after := by
  have accrues := look.accrues
  rw [ran] at accrues
  exact accrues

theorem WorkerTurn.accrues {now : Nat} {id : WorkerId} {phase : WorkerPhase}
    {service after : Service} {deeds : List Deed} {progress : Progress Unit WorkerPhase}
    (turn : WorkerTurn now id phase service deeds after progress) :
    service.Accrues ((looksIn deeds).filterMap Look.result?) [] after := by
  induction turn with
  | arrives rest ih => exact (Service.updateShell_accrues _ _ _).trans ih
  | stands => exact .refl _
  | lost missing => exact .refl _
  | ends found first done => exact Service.withShell_accrues _ _ _
  | begins found took waits =>
      have looked := Look.accrues_of_run waits
      simp only [results_looksIn_cons]
      exact (Service.withShell_accrues _ _ _).trans (looked.trans (.refl _))
  | serves found took done rest ih =>
      have looked := Look.accrues_of_run done
      simp only [results_looksIn_cons]
      exact (Service.withShell_accrues _ _ _).trans
        (looked.trans ((Service.updateShell_accrues _ _ _).trans ih))
  | resumes waits =>
      have looked := Look.accrues_of_run waits
      simp only [results_looksIn_cons]
      exact looked.trans (.refl _)
  | finishes done rest ih =>
      have looked := Look.accrues_of_run done
      simp only [results_looksIn_cons]
      exact looked.trans ((Service.updateShell_accrues _ _ _).trans ih)

end DecisionPoint
