import DecisionPoint.Proofs.Service.Deeds
import DecisionPoint.Proofs.Service.Spares

/-!
# What activities do for requests

Whoever waits for the result of a request holds its ticket.  Each turn of an activity but those of
workers and evaluations is made of dealings with the shells, and accounts for the tickets held.
-/

set_option autoImplicit false

namespace DecisionPoint

/-- A body holds a request. -/
def Codec.Decodes (codec : Codec) (body : ByteArray) (request : Request) : Prop :=
  ∃ identifier, codec.decode identifier body = .ok request

def ExchangePhase.tickets : ExchangePhase → List Ticket
  | authorizing ticket _ => [ticket]
  | _ => []

namespace Activity

def tickets : Activity → List Ticket
  | authorizing _ _ (some ticket) => [ticket]
  | answering _ _ phase => phase.tickets
  | _ => []

def asks (codec : Codec) : Activity → Request → Prop
  | authorizing _ request _, other => other = request
  | answering _ request _, other => codec.Decodes request.body other
  | _, _ => False

def governs : Activity → Bool
  | loop _ _ | starting _ | stopping _ | stoppingLoop _ => true
  | _ => false

def isLooking : Activity → Bool
  | worker _ _ | evaluating _ _ => true
  | _ => false

/-- Two phases of one activity. -/
inductive Kin : Activity → Activity → Prop where
  | loop {number : Nat} {phase phase' : LoopPhase} : Kin (loop number phase) (loop number phase')
  | worker {id : WorkerId} {phase phase' : WorkerPhase} : Kin (worker id phase) (worker id phase')
  | starting {phase phase' : StartPhase} : Kin (starting phase) (starting phase')
  | stopping {phase phase' : StopPhase} : Kin (stopping phase) (stopping phase')
  | refreshing {giveUp : Option Nat} {wait wait' : Option FetchWait} :
      Kin (refreshing giveUp wait) (refreshing giveUp wait')
  | gating {retries backoff : Nat} {gate gate' : Option GatePhase} :
      Kin (gating retries backoff gate) (gating retries backoff gate')
  | stoppingLoop {number number' : Option Nat} : Kin (stoppingLoop number) (stoppingLoop number')
  | evaluating {request : Request} {waited waited' : Option Evaluation} :
      Kin (evaluating request waited) (evaluating request waited')
  | authorizing {giveUp : Option Nat} {request : Request} {ticket ticket' : Option Ticket} :
      Kin (authorizing giveUp request ticket) (authorizing giveUp request ticket')
  | answering {listener : Listener} {request : HttpRequest} {phase phase' : ExchangePhase} :
      Kin (answering listener request phase) (answering listener request phase')
  | pausing {time : Nat} : Kin (pausing time) (pausing time)

/-- The turn of an activity consists of some deeds. -/
structure Does (codec : Codec) (activity : Activity) (service : Service) (deeds : List Deed)
    (run : Run) : Prop where
  does : Service.Does activity.governs service deeds run.1
  hands : Hands activity.tickets deeds (run.2.rest.flatMap tickets)
  asks : ∀ number job, .dealt number (.accepted job) ∈ deeds → activity.asks codec job.request

end Activity

theorem Progress.rest_map {α β φ ψ : Type} (f : α → β) (g : φ → ψ) (progress : Progress α φ) :
    (progress.map f g).rest = progress.rest.map g := by
  cases progress <;> rfl

theorem Progress.map_injective {α β φ ψ : Type} {f : α → β} {g : φ → ψ}
    (injective : Function.Injective f) (injective' : Function.Injective g) :
    Function.Injective (Progress.map f g) := by
  intro first second same
  cases first <;> cases second <;> simp only [Progress.map, Progress.done.injEq,
    Progress.waiting.injEq, reduceCtorEq] at same
  · rw [injective same]
  · rw [injective' same]

theorem Progress.mem_rest_iff {α φ : Type} (progress : Progress α φ) (phase : φ) :
    phase ∈ progress.rest ↔ progress = .waiting phase := by
  cases progress with
  | done answer => simp [rest]
  | waiting phase' => simp [rest, eq_comm]

theorem HandsNothing.asks {deeds : List Deed} (nothing : HandsNothing deeds) (p : Request → Prop) :
    ∀ number job, .dealt number (.accepted job) ∈ deeds → p job.request := by
  intro number job accepted
  cases nothing _ accepted

namespace Service

variable (service : Service) (now : Nat)

/-! ## Answers -/

theorem afterReload_rests (run : PolicyCache × Journal × Progress RefreshOutcome FetchWait)
    (steady : Steady (service.cache, service.journal) (run.1, run.2.1)) :
    service.Rests (service.afterReload run).1 ∧
      (service.afterReload run).2.rest.flatMap ExchangePhase.tickets = [] := by
  obtain ⟨cache, journal, progress⟩ := run
  cases progress <;> exact ⟨service.withCache_rests cache journal steady, rfl⟩

theorem answerError_rests (kind : String) (response : HttpResponse) :
    service.Rests (service.answerError kind response).1 := by
  refine ⟨rfl, rfl, rfl, rfl, rfl, rfl, rfl, rfl, ⟨rfl, rfl, rfl, ?_⟩, Nat.le_refl _⟩
  cases kept : service.journal.evaluationStatus <;>
    simp [answerError, Journal.transportFailed, Journal.rejections, Journal.counted,
      ServiceStatus.recordRequestError, kept]

variable (codec : Codec)

theorem answerResult_rests (result : FinalResult) :
    service.Rests (service.answerResult codec result).1 := by
  unfold answerResult
  cases codec.encodeResult result with
  | ok body => exact .refl service
  | error fault => exact service.answerError_rests _ _

theorem awaitResult_does (ticket : Ticket) (deadline : Nat) :
    ∃ deeds, Does false service deeds (service.awaitResult now codec ticket deadline).1 ∧
      Awaits ticket deeds
        ((service.awaitResult now codec ticket deadline).2.rest.flatMap
          ExchangePhase.tickets) := by
  have collected := service.collect_does false ticket
  unfold awaitResult
  generalize service.collect ticket = run at collected ⊢
  obtain ⟨service', progress⟩ := run
  obtain ⟨deeds, does, awaits⟩ := collected
  cases progress with
  | done result =>
      have answered := does.followed (.rests (service'.answerResult_rests codec result))
      rw [List.append_nil] at answered
      refine ⟨deeds, answered, ?_⟩
      simp only [answerResult_response]
      rcases awaits with ⟨-, held⟩ | own
      · cases held
      · exact .inr own
  | waiting ticket' =>
      have same : deeds = [] ∧ ticket' = ticket := by
        rcases awaits with ⟨none, held⟩ | ⟨-, held⟩
        · exact ⟨none, List.singleton_inj.mp held⟩
        · cases held
      obtain ⟨rfl, rfl⟩ := same
      simp only
      split
      · obtain ⟨deeds, leaves, own⟩ := service'.leave_does false ticket'
        refine ⟨deeds, ?_, .inr ⟨own, rfl⟩⟩
        have late := (service'.leave ticket').answerError_rests "timeout"
          (.plain 504 "authorization timed out\n")
        have both := (does.after leaves).followed (.rests late)
        rw [List.append_nil] at both
        exact both
      · exact ⟨[], does, .inl ⟨rfl, rfl⟩⟩

theorem answerBody_does (options : ServerOptions) (body : ByteArray) :
    ∃ deeds, Does false service deeds (service.answerBody now codec options body).1 ∧
      Hands [] deeds
        ((service.answerBody now codec options body).2.rest.flatMap ExchangePhase.tickets) ∧
      ∀ number job, .dealt number (.accepted job) ∈ deeds → codec.Decodes body job.request := by
  have numbered : service.Rests { service with nextNumber := service.nextNumber + 1 } :=
    ⟨rfl, rfl, rfl, rfl, rfl, rfl, rfl, rfl, .refl _, Nat.le_succ _⟩
  simp only [answerBody, freshNumber]
  split
  · exact ⟨[], .after (.rests numbered) (.rests (answerError_rests _ _ _)), HandsNothing.nil.hands,
      HandsNothing.nil.asks (codec.Decodes body)⟩
  · next request decoded =>
      have submitted :=
        submit_does { service with nextNumber := service.nextNumber + 1 } false request
      generalize submit { service with nextNumber := service.nextNumber + 1 } request = run
        at submitted ⊢
      obtain ⟨service', answer⟩ := run
      rcases submitted with ⟨ticket, rfl, does⟩ | ⟨fault, deed, rfl, other, does⟩
      · obtain ⟨deeds, waits, awaits⟩ :=
          service'.awaitResult_does now codec ticket (now + options.requestTimeout.millis)
        refine ⟨_, .after (.rests numbered) (does.followed waits), awaits.handsIn request, ?_⟩
        intro number job accepted
        rcases List.mem_cons.mp accepted with new | later
        · cases new
          exact ⟨_, decoded⟩
        · rcases awaits with ⟨rfl, -⟩ | ⟨own, -⟩
          · cases later
          · cases List.mem_singleton.mp (own later)
      · exact ⟨_, .after (.rests numbered) does, (HandsNothing.single other).hands,
          (HandsNothing.single other).asks (codec.Decodes body)⟩

theorem answerAuthorization_does (options : ServerOptions) (request : HttpRequest) :
    ∃ deeds, Does false service deeds (service.answerAuthorization now codec options request).1 ∧
      Hands [] deeds
        ((service.answerAuthorization now codec options request).2.rest.flatMap
          ExchangePhase.tickets) ∧
      ∀ number job, .dealt number (.accepted job) ∈ deeds →
        codec.Decodes request.body job.request := by
  simp only [answerAuthorization]
  split
  · exact ⟨[], .rests (answerError_rests _ _ _), HandsNothing.nil.hands,
      HandsNothing.nil.asks (codec.Decodes request.body)⟩
  · split
    · exact ⟨[], .rests (answerError_rests _ _ _), HandsNothing.nil.hands,
        HandsNothing.nil.asks (codec.Decodes request.body)⟩
    · split
      · exact service.answerBody_does now codec options request.body
      · exact ⟨[], .refl false service, HandsNothing.nil.hands,
          HandsNothing.nil.asks (codec.Decodes request.body)⟩

theorem answer_does (options : ServerOptions) (metrics : Bool) (listener : Listener)
    (request : HttpRequest) (phase : ExchangePhase) :
    ∃ deeds,
      Does false service deeds
        (service.answer now codec options metrics listener request phase).1 ∧
      Hands phase.tickets deeds
        ((service.answer now codec options metrics listener request phase).2.rest.flatMap
          ExchangePhase.tickets) ∧
      ∀ number job, .dealt number (.accepted job) ∈ deeds →
        codec.Decodes request.body job.request := by
  have nothing := HandsNothing.nil.asks (codec.Decodes request.body)
  have reload := service.afterReload_rests _ (service.cache.refresh_steady service.journal now)
  cases phase with
  | fresh =>
      simp only [answer]
      split
      · exact service.answerAuthorization_does now codec options request
      · exact ⟨[], .refl false service, HandsNothing.nil.hands, nothing⟩
      · exact ⟨[], .refl false service, HandsNothing.nil.hands, nothing⟩
      · exact ⟨[], .rests reload.1, reload.2 ▸ HandsNothing.nil.hands, nothing⟩
      · exact ⟨[], .rests reload.1, reload.2 ▸ HandsNothing.nil.hands, nothing⟩
      · exact ⟨[], .refl false service, HandsNothing.nil.hands, nothing⟩
      · exact ⟨[], .refl false service, HandsNothing.nil.hands, nothing⟩
      · exact ⟨[], .refl false service, HandsNothing.nil.hands, nothing⟩
  | reading deadline =>
      simp only [answer]
      split
      · exact ⟨[], .rests (answerError_rests _ _ _), HandsNothing.nil.hands, nothing⟩
      · exact ⟨[], .refl false service, HandsNothing.nil.hands, nothing⟩
  | authorizing ticket deadline =>
      obtain ⟨deeds, does, awaits⟩ := service.awaitResult_does now codec ticket deadline
      refine ⟨deeds, does, awaits.hands, ?_⟩
      intro number job accepted
      rcases awaits with ⟨rfl, -⟩ | ⟨own, -⟩
      · cases accepted
      · cases List.mem_singleton.mp (own accepted)
  | reloading wait =>
      have resumed := service.afterReload_rests _
        (service.cache.resume_steady service.journal now wait)
      exact ⟨[], .rests resumed.1, resumed.2 ▸ HandsNothing.nil.hands, nothing⟩

end Service

namespace Activity

variable (service : Service) (surroundings : Surroundings) (now : Nat)

theorem awaitTicket_does (giveUp : Option Nat) (request : Request) (ticket : Ticket) :
    ∃ deeds, Service.Does false service deeds (awaitTicket service now giveUp request ticket).1 ∧
      Awaits ticket deeds
        ((awaitTicket service now giveUp request ticket).2.rest.flatMap tickets) := by
  have collected := service.collect_does false ticket
  unfold awaitTicket
  generalize service.collect ticket = run at collected ⊢
  obtain ⟨service', progress⟩ := run
  obtain ⟨deeds, does, awaits⟩ := collected
  cases progress with
  | done result =>
      refine ⟨deeds, does, ?_⟩
      rcases awaits with ⟨-, held⟩ | own
      · cases held
      · exact .inr own
  | waiting ticket' =>
      have same : deeds = [] ∧ ticket' = ticket := by
        rcases awaits with ⟨none, held⟩ | ⟨-, held⟩
        · exact ⟨none, List.singleton_inj.mp held⟩
        · cases held
      obtain ⟨rfl, rfl⟩ := same
      simp only
      split
      · obtain ⟨deeds, leaves, own⟩ := service'.leave_does false ticket'
        exact ⟨deeds, does.after leaves, .inr ⟨own, rfl⟩⟩
      · exact ⟨[], does, .inl ⟨rfl, rfl⟩⟩

theorem part_kin (activity activity' : Activity)
    (waits : (activity.part service surroundings now).2 = .waiting activity') :
    activity.Kin activity' := by
  have mapped {α φ : Type} (f : α → Answer) (g : φ → Activity) (progress : Progress α φ)
      (kin : ∀ phase, activity.Kin (g phase)) (ended : progress.map f g = .waiting activity') :
      activity.Kin activity' := by
    cases progress with
    | done result => cases ended
    | waiting phase =>
        cases ended
        exact kin phase
  cases activity with
  | loop number phase => exact mapped _ (.loop number) _ (fun _ => .loop) waits
  | worker id phase => exact mapped _ (.worker id) _ (fun _ => .worker) waits
  | starting phase => exact mapped _ .starting _ (fun _ => .starting) waits
  | stopping phase => exact mapped _ .stopping _ (fun _ => .stopping) waits
  | answering listener request phase =>
      exact mapped _ (.answering listener request) _ (fun _ => .answering) waits
  | refreshing giveUp wait =>
      have after (run : PolicyCache × Journal × Progress RefreshOutcome FetchWait)
          (waits : (afterRefresh service now giveUp run).2 = .waiting activity') :
          (refreshing giveUp wait).Kin activity' := by
        unfold afterRefresh at waits
        split at waits
        · cases waits
        · split at waits <;> cases waits
          exact .refreshing
      cases wait <;> exact after _ waits
  | gating retries backoff gate =>
      have after (run : PolicyCache.GateRun)
          (waits : (afterGate service retries backoff run).2 = .waiting activity') :
          (gating retries backoff gate).Kin activity' := by
        unfold afterGate at waits
        split at waits <;> cases waits
        exact .gating
      cases gate <;> exact after _ waits
  | stoppingLoop number =>
      cases number with
      | none =>
          simp only [part, run] at waits
          split at waits <;> cases waits
          exact .stoppingLoop
      | some number =>
          simp only [part, run] at waits
          split at waits <;> cases waits
          exact .stoppingLoop
  | evaluating request waited =>
      have after (run : Service × Progress FinalResult Evaluation)
          (waits : (afterEvaluation request run).2 = .waiting activity') :
          (evaluating request waited).Kin activity' := by
        unfold afterEvaluation at waits
        split at waits <;> cases waits
        exact .evaluating
      cases waited <;> exact after _ waits
  | authorizing giveUp request ticket =>
      have awaited (service : Service) (ticket' : Ticket)
          (waits : (awaitTicket service now giveUp request ticket').2 = .waiting activity') :
          (authorizing giveUp request ticket).Kin activity' := by
        unfold awaitTicket at waits
        split at waits
        · cases waits
        · split at waits <;> cases waits
          exact .authorizing
      cases ticket with
      | none =>
          simp only [part, run] at waits
          split at waits
          · cases waits
          · exact awaited _ _ waits
      | some ticket => exact awaited service ticket waits
  | pausing time =>
      simp only [part, run] at waits
      split at waits <;> cases waits
      exact .pausing

theorem rest_kin {activity : Activity} {after : Service} {progress : Progress Answer Activity}
    (ran : activity.part service surroundings now = (after, progress)) :
    ∀ activity' ∈ progress.rest, activity.Kin activity' := by
  intro activity' own
  refine part_kin service surroundings now activity activity' ?_
  rw [ran]
  exact (progress.mem_rest_iff activity').mp own

theorem Kin.isLooking {activity activity' : Activity} (kin : activity.Kin activity') :
    activity'.isLooking = activity.isLooking := by
  cases kin <;> rfl

theorem Kin.asks {codec : Codec} {activity activity' : Activity} (kin : activity.Kin activity')
    (request : Request) (asks : activity.asks codec request) :
    activity'.asks codec request := by
  cases kin <;> exact asks

theorem afterRefresh_rests (giveUp : Option Nat)
    (run : PolicyCache × Journal × Progress RefreshOutcome FetchWait)
    (steady : Steady (service.cache, service.journal) (run.1, run.2.1)) :
    service.Rests (afterRefresh service now giveUp run).1 ∧
      (afterRefresh service now giveUp run).2.rest.flatMap tickets = [] := by
  obtain ⟨cache, journal, progress⟩ := run
  cases progress with
  | done outcome => exact ⟨service.withCache_rests cache journal steady, rfl⟩
  | waiting wait =>
      simp only [afterRefresh]
      split
      · have released : Steady (cache, journal) (cache.release, journal) := ⟨rfl, rfl, rfl, rfl⟩
        exact ⟨service.withCache_rests _ _ (steady.trans released), rfl⟩
      · exact ⟨service.withCache_rests cache journal steady, rfl⟩

theorem afterGate_rests (retries backoff : Nat) (run : PolicyCache.GateRun)
    (steady : Steady (service.cache, service.journal) (run.1, run.2.1)) :
    service.Rests (afterGate service retries backoff run).1 ∧
      (afterGate service retries backoff run).2.rest.flatMap tickets = [] := by
  obtain ⟨cache, journal, progress⟩ := run
  cases progress <;> exact ⟨service.withCache_rests cache journal steady, rfl⟩

theorem Does.ofNothing {codec : Codec} {activity : Activity} {service : Service}
    {deeds : List Deed} {run : Run} (does : Service.Does activity.governs service deeds run.1)
    (nothing : HandsNothing deeds) (none : activity.tickets = [])
    (none' : run.2.rest.flatMap tickets = []) :
    activity.Does codec service deeds run := by
  refine ⟨does, ?_, nothing.asks _⟩
  rw [none, none']
  exact nothing.hands

theorem flatMap_tickets_map {α φ : Type} (f : α → Answer) (g : φ → Activity)
    (none : ∀ phase, (g phase).tickets = []) (progress : Progress α φ) :
    (progress.map f g).rest.flatMap tickets = [] := by
  cases progress with
  | done result => rfl
  | waiting phase => simp [Progress.map, Progress.rest, none]

/-- Every turn but those that look at evaluations consists of deeds. -/
theorem part_does (activity : Activity) (other : activity.isLooking = false) :
    ∃ deeds, activity.Does surroundings.codec service deeds
      (activity.part service surroundings now) := by
  cases activity with
  | worker id phase => cases other
  | evaluating request evaluation => cases other
  | loop number phase =>
      exact ⟨[], .ofNothing (service.runLoop_does now number phase) .nil rfl
        (flatMap_tickets_map _ _ (fun _ => rfl) _)⟩
  | starting phase =>
      obtain ⟨deeds, does, nothing⟩ := service.start_does now phase
      exact ⟨deeds, .ofNothing does nothing rfl (flatMap_tickets_map _ _ (fun _ => rfl) _)⟩
  | stopping phase =>
      obtain ⟨deeds, does, nothing⟩ := service.shutdown_does phase
      exact ⟨deeds, .ofNothing does nothing rfl (flatMap_tickets_map _ _ (fun _ => rfl) _)⟩
  | refreshing giveUp wait =>
      cases wait with
      | none =>
          obtain ⟨rests, none⟩ := afterRefresh_rests service now giveUp _
            (service.cache.refresh_steady service.journal now)
          exact ⟨[], .ofNothing (.rests rests) .nil rfl none⟩
      | some wait =>
          obtain ⟨rests, none⟩ := afterRefresh_rests service now giveUp _
            (service.cache.resume_steady service.journal now wait)
          exact ⟨[], .ofNothing (.rests rests) .nil rfl none⟩
  | gating retries backoff gate =>
      cases gate with
      | none =>
          obtain ⟨rests, none⟩ := afterGate_rests service retries backoff _
            (service.cache.gate_steady service.journal now backoff retries)
          exact ⟨[], .ofNothing (.rests rests) .nil rfl none⟩
      | some phase =>
          obtain ⟨rests, none⟩ := afterGate_rests service retries backoff _
            (service.cache.resumeGate_steady service.journal now backoff phase)
          exact ⟨[], .ofNothing (.rests rests) .nil rfl none⟩
  | stoppingLoop number =>
      cases number with
      | none =>
          have dismissed := service.dismissLoop_governs
          simp only [part, run]
          generalize service.dismissLoop = result at dismissed ⊢
          obtain ⟨service', loop⟩ := result
          cases loop <;> exact ⟨[], .ofNothing (.governs dismissed) .nil rfl rfl⟩
      | some number =>
          simp only [part, run]
          split <;> exact ⟨[], .ofNothing (.refl true service) .nil rfl rfl⟩
  | authorizing giveUp request ticket =>
      cases ticket with
      | none =>
          have submitted := service.submit_does false request
          simp only [part, run]
          generalize service.submit request = result at submitted ⊢
          obtain ⟨service', answer⟩ := result
          rcases submitted with ⟨ticket, rfl, does⟩ | ⟨fault, deed, rfl, other, does⟩
          · obtain ⟨deeds, waits, awaits⟩ := awaitTicket_does service' now giveUp request ticket
            refine ⟨_, does.followed waits, awaits.handsIn request, ?_⟩
            intro number job accepted
            rcases List.mem_cons.mp accepted with new | later
            · cases new
              exact rfl
            · rcases awaits with ⟨rfl, -⟩ | ⟨own, -⟩
              · cases later
              · cases List.mem_singleton.mp (own later)
          · exact ⟨_, .ofNothing does (.single other) rfl rfl⟩
      | some ticket =>
          obtain ⟨deeds, does, awaits⟩ := awaitTicket_does service now giveUp request ticket
          refine ⟨deeds, does, awaits.hands, ?_⟩
          intro number job accepted
          rcases awaits with ⟨rfl, -⟩ | ⟨own, -⟩
          · cases accepted
          · cases List.mem_singleton.mp (own accepted)
  | answering listener request phase =>
      obtain ⟨deeds, does, hands, asks⟩ := service.answer_does now surroundings.codec
        surroundings.server surroundings.metrics listener request phase
      refine ⟨deeds, does, ?_, asks⟩
      simp only [part, run, Progress.rest_map, List.flatMap_map]
      exact hands
  | pausing time =>
      simp only [part, run]
      split <;> exact ⟨[], .ofNothing (.refl false service) .nil rfl rfl⟩

end Activity

/-- What goes on after a step went on before, is new, or is left of the activity whose turn it
was. -/
theorem World.Step.mem_tasks {world next : World} {happening : Happening}
    (step : Step world happening next) {activity : Activity} (mem : activity ∈ next.tasks) :
    activity ∈ world.tasks ∨ activity.isFresh = true ∨
      (∃ spawned ∈ world.service.spawned, spawned.activity = activity) ∨
      ∃ activity' ∈ world.tasks,
        happening = .turn activity' (.waiting activity) ∧ activity'.Kin activity := by
  cases step with
  | time later forward | source source | registry registry | loopStarts service started =>
      exact .inl mem
  | joins =>
      rcases List.mem_append.mp mem with before | joined
      · exact .inl before
      · exact .inr (.inr (.inl (List.mem_map.mp joined)))
  | begins activity' fresh =>
      rcases List.mem_append.mp mem with before | new
      · exact .inl before
      · cases List.mem_singleton.mp new
        exact .inr (.inl fresh)
  | turns left right activity' service progress split ran =>
      simp only [List.mem_append] at mem
      rcases mem with (before | own) | after
      · exact .inl (by simp [split, before])
      · refine .inr (.inr (.inr ⟨activity', by simp [split], ?_, ?_⟩))
        · rw [(progress.mem_rest_iff activity).mp own]
        · exact Activity.rest_kin _ _ _ ran _ own
      · exact .inl (by simp [split, after])
  | overlooks left right number phase phase' cache journal split ran =>
      simp only [List.mem_append, List.mem_cons] at mem
      rcases mem with before | rfl | after
      · exact .inl (by simp [split, before])
      · exact .inr (.inr (.inr ⟨.loop number phase, by simp [split], rfl, .loop⟩))
      · exact .inl (by simp [split, after])
  | drops left right activity' split droppable =>
      rcases List.mem_append.mp mem with before | after
      · exact .inl (by simp [split, before])
      · exact .inl (by simp [split, after])

end DecisionPoint
