import DecisionPoint.Proofs.Admission.Handing
import DecisionPoint.Proofs.Service.Recording

/-!
# The turns of an authorization request

A request to the authorization endpoint is handed in once or never.  As long as it is not, its body
may come late, be no request, or find no room; after that it waits for its result or for too long.
-/

set_option autoImplicit false

namespace DecisionPoint

def HttpRequest.isAuthorization (request : HttpRequest) : Bool :=
  request.verb = "POST" ∧ request.path = "/authz"

def ExchangePhase.isAuthorizing : ExchangePhase → Bool
  | reading _ | authorizing _ _ => true
  | _ => false

def ExchangePhase.isAwaiting : ExchangePhase → Bool
  | authorizing _ _ => true
  | _ => false

namespace HttpResponse

def lateBody : HttpResponse := .plain 408 "request body timed out\n"

def timedOut : HttpResponse := .plain 504 "authorization timed out\n"

end HttpResponse

/-- A response to a request for a decision, and where its answer was when the response was given. -/
structure Sent where
  request : HttpRequest
  phase : ExchangePhase
  response : HttpResponse

namespace Sent

/-- A result was waited for, and could not be written.  Whatever a codec makes of its faults, they
are told before anything is waited for. -/
def isUnwritten (sent : Sent) : Bool :=
  sent.response.status = 500 ∧ sent.phase.isAwaiting

def isOfAccepted (sent : Sent) : Bool :=
  sent.response.status = 200 ∨ sent.response.status = 504 ∨ sent.isUnwritten

end Sent

namespace Service

variable (service : Service) (now : Nat) (codec : Codec)

def Withheld : Progress HttpResponse ExchangePhase → Prop
  | .waiting phase => ∃ deadline, phase = .reading deadline
  | .done response =>
    response = .lateBody ∨ (∃ fault, response = faultResponse codec fault) ∨
      ∃ fault, response = refusalResponse fault

/-- What can come of a request that was handed in under a ticket. -/
def Awaited (ticket : Ticket) : Progress HttpResponse ExchangePhase → Prop
  | .waiting phase => ∃ deadline, phase = .authorizing ticket deadline
  | .done response =>
    response = .timedOut ∨
      ∃ result, service.answer? ticket = some result ∧ response = resultResponse codec result

theorem handedIn_of_nothing {deeds : List Deed} (nothing : HandsNothing deeds) :
    handedIn deeds = [] := by
  rw [handedIn, List.filterMap_eq_nil_iff]
  intro deed mem
  have other := nothing deed mem
  cases deed with
  | dealt number dealing =>
      cases dealing with
      | accepted job => cases other
      | _ => rfl
  | _ => rfl

theorem handedIn_of_awaits {ticket : Ticket} {deeds : List Deed} {held : List Ticket}
    (awaits : Awaits ticket deeds held) : handedIn deeds = [] := by
  rw [handedIn, List.filterMap_eq_nil_iff]
  intro deed mem
  rcases awaits with ⟨rfl, -⟩ | ⟨own, -⟩
  · cases mem
  · cases List.mem_singleton.mp (own mem)
    rfl

theorem awaitResult_awaited (ticket : Ticket) (deadline : Nat) :
    service.Awaited codec ticket (service.awaitResult now codec ticket deadline).2 := by
  unfold awaitResult collect
  cases answered : service.answer? ticket with
  | some result =>
      simp only [answerResult_response]
      exact .inr ⟨result, answered, rfl⟩
  | none =>
      simp only
      split
      · exact .inl rfl
      · exact ⟨deadline, rfl⟩

/-- No job that is still to come has an answer yet. -/
def Unanswered : Prop :=
  ∀ ticket : Ticket, service.nextNumber ≤ ticket.number → service.answer? ticket = none

theorem submit_unanswered (unanswered : service.Unanswered) (request : Request) (ticket : Ticket)
    (accepted : (service.submit request).2 = .ok ticket) :
    (service.submit request).1.answer? ticket = none := by
  revert accepted
  unfold submit
  split
  · intro accepted
    cases accepted
  · next number admits =>
      split
      · intro accepted
        cases accepted
      · next shell found =>
          simp only [freshNumber]
          split
          · next shell' answer =>
              intro accepted
              cases accepted
              obtain ⟨-, -, rfl⟩ := (Shell.submit_eq_ok_iff _ _ _).mp answer
              have new := unanswered ⟨number, service.nextNumber⟩ (Nat.le_refl _)
              simp only [answer?, found, Option.bind_some] at new
              have numbered : shell? { service with nextNumber := service.nextNumber + 1 } number =
                some shell := found
              simp only [answer?]
              rw [shell?_withShell _ numbered, if_pos rfl]
              exact new
          · intro accepted
            cases accepted
          · intro accepted
            cases accepted

/-- One turn of a request that was not handed in before: it is not handed in now either, or it is
handed in under a ticket and has to wait. -/
def Turns (body : ByteArray) (run : Answering) : Prop :=
  ∃ deeds, Does false service deeds run.1 ∧
    ((handedIn deeds = [] ∧ Withheld codec run.2) ∨
      ∃ ticket request, handedIn deeds = [(ticket, request)] ∧ codec.Decodes body request ∧
        (run.2 = .done .timedOut ∨ ∃ deadline, run.2 = .waiting (.authorizing ticket deadline)))

theorem Turns.outcome {service : Service} {codec : Codec} {body : ByteArray} {run : Answering}
    {deeds : List Deed} (turns : service.Turns codec body run)
    (does : Does false service deeds run.1) :
    (handedIn deeds = [] ∧ Withheld codec run.2) ∨
      ∃ ticket request, handedIn deeds = [(ticket, request)] ∧
        codec.Decodes body request ∧
        (run.2 = .done .timedOut ∨
          ∃ deadline, run.2 = .waiting (.authorizing ticket deadline)) := by
  obtain ⟨canonical, does', handed⟩ := turns
  have few : (handedIn canonical).length ≤ 1 := by
    rcases handed with ⟨none, -⟩ | ⟨ticket, asked, one, -⟩
    · simp [none]
    · simp [one]
  rw [does.handedIn_eq does' few]
  exact handed

theorem Turns.ofError (body : ByteArray) (kind : String) (response : HttpResponse)
    (withheld : Withheld codec (.done response)) :
    service.Turns codec body (service.answerError kind response) :=
  ⟨[], .rests (service.answerError_rests kind response), .inl ⟨rfl, withheld⟩⟩

theorem answerBody_turns (unanswered : service.Unanswered) (options : ServerOptions)
    (body : ByteArray) : service.Turns codec body (service.answerBody now codec options body) := by
  have numbered : service.Rests { service with nextNumber := service.nextNumber + 1 } :=
    ⟨rfl, rfl, rfl, rfl, rfl, rfl, rfl, rfl, .refl _, Nat.le_succ _⟩
  simp only [answerBody, freshNumber]
  split
  · next fault _ =>
      exact ⟨[], .after (.rests numbered) (.rests (answerError_rests _ _ _)),
        .inl ⟨rfl, .inr (.inl ⟨fault, rfl⟩)⟩⟩
  · next request decoded =>
      have later : Unanswered { service with nextNumber := service.nextNumber + 1 } :=
        fun ticket new => unanswered ticket (Nat.le_of_succ_le new)
      have submitted :=
        submit_does { service with nextNumber := service.nextNumber + 1 } false request
      have new := submit_unanswered _ later request
      generalize submit { service with nextNumber := service.nextNumber + 1 } request = run
        at submitted new ⊢
      obtain ⟨service', answer⟩ := run
      rcases submitted with ⟨ticket, rfl, does⟩ | ⟨fault, deed, rfl, other, does⟩
      · obtain ⟨deeds, waits, awaits⟩ :=
          service'.awaitResult_does now codec ticket (now + options.requestTimeout.millis)
        have awaited := service'.awaitResult_awaited now codec ticket
          (now + options.requestTimeout.millis)
        refine ⟨_, .after (.rests numbered) (does.followed waits), .inr ⟨ticket, request, ?_,
          ⟨_, decoded⟩, ?_⟩⟩
        · exact congrArg (_ :: ·) (handedIn_of_awaits awaits)
        · simp only
          generalize
            (service'.awaitResult now codec ticket (now + options.requestTimeout.millis)).2 =
              progress at awaited ⊢
          cases progress with
          | waiting phase =>
              obtain ⟨deadline, rfl⟩ := awaited
              exact .inr ⟨deadline, rfl⟩
          | done response =>
              rcases awaited with rfl | ⟨result, answered, -⟩
              · exact .inl rfl
              · rw [new ticket rfl] at answered
                cases answered
      · refine ⟨_, .after (.rests numbered) does, .inl ⟨?_, .inr (.inr ⟨fault, rfl⟩)⟩⟩
        exact handedIn_of_nothing (.single other)

theorem answerAuthorization_turns (unanswered : service.Unanswered) (options : ServerOptions)
    (request : HttpRequest) :
    service.Turns codec request.body (service.answerAuthorization now codec options request) := by
  simp only [answerAuthorization]
  split
  · exact .ofError service codec _ _ _ (.inl rfl)
  · split
    · exact .ofError service codec _ _ _ (.inr (.inl ⟨_, rfl⟩))
    · split
      · exact service.answerBody_turns now codec unanswered options request.body
      · exact ⟨[], .refl false service, .inl ⟨rfl, _, rfl⟩⟩

/-! ## Whole answers -/

variable (options : ServerOptions) (metrics : Bool)

theorem answer_turns (unanswered : service.Unanswered) (request : HttpRequest)
    (authorizes : request.isAuthorization = true) :
    service.Turns codec request.body
      (service.answer now codec options metrics .authorization request .fresh) := by
  obtain ⟨verb, path⟩ := of_decide_eq_true authorizes
  simp only [answer, verb, path]
  exact service.answerAuthorization_turns now codec unanswered options request

theorem answer_reading_turns (listener : Listener) (request : HttpRequest) (deadline : Nat) :
    service.Turns codec request.body
      (service.answer now codec options metrics listener request (.reading deadline)) := by
  simp only [answer]
  split
  · exact .ofError service codec _ _ _ (.inl rfl)
  · exact ⟨[], .refl false service, .inl ⟨rfl, _, rfl⟩⟩

/-- What is handed in at a turn, and what was waited for before it, is responded to or waited for
after it. -/
def Balances (request : HttpRequest) (phase : ExchangePhase) (run : Answering) : Prop :=
  (∀ later ∈ run.2.rest, later.isAuthorizing = true) ∧
    ∃ deeds, Does false service deeds run.1 ∧ (handedIn deeds).length ≤ 1 ∧
      phase.tickets.length + (handedIn deeds).length =
        (run.2.result?.toList.countP fun response => Sent.isOfAccepted ⟨request, phase, response⟩) +
          (run.2.rest.flatMap ExchangePhase.tickets).length

section Balances

variable {service service' : Service} {codec : Codec} {request : HttpRequest}
  {phase : ExchangePhase} {deeds : List Deed}

theorem Balances.ofDone {response : HttpResponse} (does : Does false service deeds service')
    (few : (handedIn deeds).length ≤ 1)
    (balance : phase.tickets.length + (handedIn deeds).length =
      [Sent.mk request phase response].countP Sent.isOfAccepted) :
    service.Balances request phase (service', .done response) :=
  ⟨by simp [Progress.rest], deeds, does, few, balance⟩

theorem Balances.ofWaiting {later : ExchangePhase} (own : later.isAuthorizing = true)
    (does : Does false service deeds service') (few : (handedIn deeds).length ≤ 1)
    (balance : phase.tickets.length + (handedIn deeds).length = later.tickets.length) :
    service.Balances request phase (service', .waiting later) := by
  refine ⟨by simpa [Progress.rest] using own, deeds, does, few, ?_⟩
  simpa [Progress.rest, Progress.result?] using balance

theorem Turns.balances {body : ByteArray} {run : Answering} (turns : service.Turns codec body run)
    (early : phase.isAwaiting = false) : service.Balances request phase run := by
  have none : phase.tickets = [] := by
    cases phase <;> first | rfl | cases early
  have unaccepted {response : HttpResponse} (decided : response.status ≠ 200)
      (late : response.status ≠ 504) :
      [Sent.mk request phase response].countP Sent.isOfAccepted = 0 := by
    simp [Sent.isOfAccepted, Sent.isUnwritten, early, decided, late]
  obtain ⟨service', progress⟩ := run
  obtain ⟨deeds, does, ⟨nothing, withheld⟩ | ⟨ticket, asked, one, -, rfl | ⟨deadline, rfl⟩⟩⟩ :=
    turns
  · have few : (handedIn deeds).length ≤ 1 := by simp [nothing]
    cases progress with
    | waiting later =>
        obtain ⟨deadline, rfl⟩ := withheld
        refine .ofWaiting rfl does few ?_
        rw [none, nothing]
        rfl
    | done response =>
        refine .ofDone does few ?_
        rw [none, nothing]
        rcases withheld with rfl | ⟨fault, rfl⟩ | ⟨fault, rfl⟩
        · exact (unaccepted (by decide) (by decide)).symm
        · exact (unaccepted (by simp [faultResponse]) (by simp [faultResponse])).symm
        · cases fault <;> exact (unaccepted (by decide) (by decide)).symm
  · have few : (handedIn deeds).length ≤ 1 := by simp [one]
    refine .ofDone does few ?_
    rw [none, one]
    rfl
  · have few : (handedIn deeds).length ≤ 1 := by simp [one]
    refine .ofWaiting rfl does few ?_
    rw [none, one]
    rfl

end Balances

theorem resultResponse_status (result : FinalResult) :
    (resultResponse codec result).status = 200 ∨ (resultResponse codec result).status = 500 := by
  unfold resultResponse
  cases codec.encodeResult result with
  | ok body => exact .inl rfl
  | error fault => exact .inr rfl

theorem awaitResult_balances (request : HttpRequest) (ticket : Ticket) (deadline : Nat) :
    service.Balances request (.authorizing ticket deadline)
      (service.awaitResult now codec ticket deadline) := by
  obtain ⟨deeds, does, awaits⟩ := service.awaitResult_does now codec ticket deadline
  have awaited := service.awaitResult_awaited now codec ticket deadline
  have nothing := handedIn_of_awaits awaits
  have few : (handedIn deeds).length ≤ 1 := by simp [nothing]
  generalize service.awaitResult now codec ticket deadline = run at does awaited ⊢
  obtain ⟨service', progress⟩ := run
  cases progress with
  | waiting phase =>
      obtain ⟨deadline', rfl⟩ := awaited
      refine .ofWaiting rfl does few ?_
      rw [nothing]
      rfl
  | done response =>
      refine .ofDone does few ?_
      rw [nothing]
      rcases awaited with rfl | ⟨result, -, rfl⟩
      · rfl
      · have answered : Sent.isOfAccepted
            ⟨request, .authorizing ticket deadline, resultResponse codec result⟩ = true := by
          rcases resultResponse_status codec result with written | unwritten
          · simp [Sent.isOfAccepted, written]
          · simp [Sent.isOfAccepted, Sent.isUnwritten, ExchangePhase.isAwaiting, unwritten]
        rw [List.countP_singleton, if_pos answered]
        rfl

theorem answer_balances (unanswered : service.Unanswered) (request : HttpRequest)
    (authorizes : request.isAuthorization = true) (phase : ExchangePhase)
    (own : phase = .fresh ∨ phase.isAuthorizing = true) :
    service.Balances request phase
      (service.answer now codec options metrics .authorization request phase) := by
  cases phase with
  | fresh =>
      exact (service.answer_turns now codec options metrics unanswered request
        authorizes).balances rfl
  | reading deadline =>
      exact (service.answer_reading_turns now codec options metrics .authorization request
        deadline).balances rfl
  | authorizing ticket deadline =>
      exact service.awaitResult_balances now codec request ticket deadline
  | reloading wait => simp [ExchangePhase.isAuthorizing] at own

/-- A request for something else is not handed in, and its response tells of no trouble. -/
def Elsewhere (run : Answering) : Prop :=
  service.Rests run.1 ∧
    match run.2 with
    | .waiting phase => phase.isAuthorizing = false
    | .done response => response.trouble? = none

theorem afterReload_elsewhere
    (run : PolicyCache × Journal × Progress RefreshOutcome FetchWait)
    (steady : Steady (service.cache, service.journal) (run.1, run.2.1)) :
    service.Elsewhere (service.afterReload run) := by
  refine ⟨(service.afterReload_rests run steady).1, ?_⟩
  obtain ⟨cache, journal, progress⟩ := run
  cases progress with
  | done outcome => cases outcome <;> rfl
  | waiting wait => rfl

theorem answer_elsewhere (listener : Listener) (request : HttpRequest) (phase : ExchangePhase)
    (other : phase.isAuthorizing = false)
    (fresh : phase = .fresh → listener = .authorization → request.isAuthorization = false) :
    service.Elsewhere (service.answer now codec options metrics listener request phase) := by
  cases phase with
  | fresh =>
      simp only [answer]
      split
      · next verb path =>
          have asked := fresh rfl rfl
          simp [HttpRequest.isAuthorization, verb, path] at asked
      · exact ⟨.refl service, rfl⟩
      · exact ⟨.refl service, rfl⟩
      · exact service.afterReload_elsewhere _ (service.cache.refresh_steady service.journal now)
      · exact service.afterReload_elsewhere _ (service.cache.refresh_steady service.journal now)
      · refine ⟨.refl service, ?_⟩
        unfold healthResponse
        cases service.isRunning <;> rfl
      · exact ⟨.refl service, by cases metrics <;> rfl⟩
      · exact ⟨.refl service, rfl⟩
  | reading deadline => cases other
  | authorizing ticket deadline => cases other
  | reloading wait =>
      exact service.afterReload_elsewhere _ (service.cache.resume_steady service.journal now wait)

end Service

end DecisionPoint
