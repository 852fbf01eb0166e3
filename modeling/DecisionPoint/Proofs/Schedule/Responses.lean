import DecisionPoint.Proofs.Evaluation.Course
import DecisionPoint.Proofs.Http.Codec
import DecisionPoint.Proofs.Schedule.Agreement
import DecisionPoint.Proofs.Schedule.Books

/-!
# Responses are accounted for

When all requests come by the endpoint, the totals of the status are those of the responses.  A
request that is refused is never evaluated, and each result that is sent is that of the only
evaluation of the request that it answers.
-/

set_option autoImplicit false

namespace DecisionPoint

/-! ## Whose results -/

def Occasion.Carries (occasion : Occasion) : Progress FinalResult Evaluation → Prop
  | .waiting evaluation => evaluation.occasion = occasion
  | .done result => result.requestId = occasion.requestId

theorem Occasion.result_requestId (occasion : Occasion) (policy : Option PolicySnapshot)
    (responseId : String) (completedAt : Instant) (verdict : Verdict) :
    (occasion.result policy responseId completedAt verdict).requestId = occasion.requestId := by
  cases verdict <;> rfl

namespace Service

variable (service : Service) (now : Nat)

theorem proceed_carries (occasion : Occasion) (policy : PolicySnapshot)
    (work : Pipeline.Enriching) :
    occasion.Carries (service.proceed now occasion policy work).2 := by
  cases reached : work.progress with
  | waiting wait =>
      rw [service.proceed_waiting now occasion policy work wait reached]
      rfl
  | done ended =>
      obtain ⟨responseId, result⟩ :=
        service.proceed_done now occasion policy work ended reached
      rw [result]
      exact occasion.result_requestId _ _ _ _

theorem evaluate_carries (request : Request) :
    (Occasion.of request).Carries (service.evaluate now request).2 := by
  unfold evaluate
  split
  · exact (Occasion.of request).result_requestId _ _ _ _
  · exact service.proceed_carries now _ _ _

end Service

namespace World

variable {beginning world next : World} {happenings : List Happening} {deeds : List Deed}
  {options : ServiceOptions}

theorem Pursuit.carries {request : Request} {policy : Option PolicySnapshot} {look : Look}
    (pursuit : Pursuit beginning request policy happenings world look) :
    (Occasion.of request).Carries look.run.2 := by
  induction pursuit with
  | begins run step acts looked asked new inEffect =>
      rw [← asked, Look.run, new]
      exact Service.evaluate_carries _ _ _
  | @goesOn happenings later world middle next happening deeds look look' evaluation earlier waits
      meanwhile step acts looked asked same ih =>
      rw [waits] at ih
      rw [Look.run, same, ← ih]
      exact Service.proceed_carries _ _ _ _ _

end World

/-! ## Totals -/

def HttpResponse.hasStatus (status : Nat) (response : HttpResponse) : Bool :=
  response.status = status

structure StatusReport.Tallies (report : StatusReport) (results : List FinalResult)
    (responses : List HttpResponse) : Prop where
  errors : report.totalRequestErrors.toNat =
    results.countP FinalResult.isError + responses.countP (HttpResponse.hasStatus 408) +
      responses.countP (HttpResponse.hasStatus 500) + responses.countP (HttpResponse.hasStatus 504)
  rejections : report.admissionRejections.toNat =
    responses.countP fun response => response = Service.refusalResponse .busy

theorem HttpResponse.countP_trouble? (responses : List HttpResponse) :
    (responses.filterMap trouble?).countP Journal.Trouble.isOfTransport =
      responses.countP (hasStatus 408) + responses.countP (hasStatus 500) +
        responses.countP (hasStatus 504) := by
  induction responses with
  | nil => rfl
  | cons response rest ih =>
      have own : (response.trouble?.toList.countP Journal.Trouble.isOfTransport) =
          [response].countP (hasStatus 408) + [response].countP (hasStatus 500) +
            [response].countP (hasStatus 504) := by
        unfold trouble?
        split
        · next busy =>
            subst busy
            rfl
        · split <;> simp_all [hasStatus, Journal.Trouble.isOfTransport]
      have split : (response :: rest).filterMap trouble? =
          response.trouble?.toList ++ rest.filterMap trouble? := by
        cases told : response.trouble? <;> simp [told]
      rw [split, List.countP_append, own, ih]
      simp only [List.countP_cons, List.countP_nil]
      omega

theorem HttpResponse.count_busy (responses : List HttpResponse) :
    (responses.filterMap trouble?).count .busy =
      responses.countP fun response => response = Service.refusalResponse .busy := by
  rw [List.count, List.countP_filterMap]
  refine List.countP_congr fun response _ => ?_
  by_cases busy : response = Service.refusalResponse .busy
  · simp [trouble?, busy]
  · rw [trouble?, if_neg busy]
    split <;> simp [busy]

theorem Sent.countP_isOfAccepted (sent : List Sent) :
    sent.countP isOfAccepted = (sent.map Sent.response).countP (HttpResponse.hasStatus 200) +
      (sent.map Sent.response).countP (HttpResponse.hasStatus 504) + sent.countP isUnwritten := by
  induction sent with
  | nil => rfl
  | cons first rest ih =>
      have own : [first].countP isOfAccepted =
          [first.response].countP (HttpResponse.hasStatus 200) +
            [first.response].countP (HttpResponse.hasStatus 504) + [first].countP isUnwritten := by
        by_cases decided : first.response.status = 200
        · simp [isOfAccepted, HttpResponse.hasStatus, isUnwritten, decided]
        · by_cases late : first.response.status = 504
          · simp [isOfAccepted, HttpResponse.hasStatus, isUnwritten, late]
          · simp [isOfAccepted, HttpResponse.hasStatus, decided, late]
      rw [List.map_cons, List.countP_cons, List.countP_cons, List.countP_cons, List.countP_cons, ih]
      simp only [List.countP_cons, List.countP_nil] at own
      omega

namespace World

/-- Every request for a decision has its response, nothing waits, and nobody is at work. -/
structure IsSettled (world : World) : Prop where
  answered : ∀ activity ∈ world.tasks, activity.isDeciding = false
  idle : world.service.IsIdle

/-- The responses that were sent to requests for decisions, in order. -/
def responses (happenings : List Happening) : List HttpResponse :=
  (sentIn happenings).map Sent.response

section Runs

variable {beginning world : World} {happenings : List Happening} {deeds : List Deed}
  {options : ServiceOptions}

theorem Ledger.tallies (ledger : Ledger beginning happenings world deeds)
    (new : beginning.IsNew options) (books : Books happenings world deeds)
    (few : (askedIn happenings).length < 2 ^ 63) :
    world.service.report.Tallies ((looksIn deeds).filterMap Look.result?)
      (responses happenings) := by
  obtain ⟨entries, -, advances, results, troubles⟩ := ledger.advances new
  have evaluated := books.length_results_le (ledger.accounts new)
  have told : troublesIn happenings = (responses happenings).filterMap HttpResponse.trouble? := by
    rw [books.troubles, responses, List.filterMap_map]
    rfl
  have sent : (troublesIn happenings).length ≤ (askedIn happenings).length := by
    rw [told, books.asked]
    refine Nat.le_trans (List.length_filterMap_le _ _) ?_
    rw [responses, List.length_map]
    exact Nat.le_add_right _ _
  -- Nothing was counted in the beginning, so all counts are those of the results and troubles.
  have failures : world.service.journal.status.pipelineErrors =
      ((looksIn deeds).filterMap Look.result?).countP FinalResult.isError := by
    obtain ⟨source, engine, points, handlers, startedAt, surroundings, rfl⟩ := new
    rw [← results]
    exact advances.failures.trans (Nat.zero_add _)
  have transport : world.service.journal.status.transportErrors =
      (troublesIn happenings).countP Journal.Trouble.isOfTransport := by
    obtain ⟨source, engine, points, handlers, startedAt, surroundings, rfl⟩ := new
    rw [← troubles]
    exact advances.transport.trans (Nat.zero_add _)
  have rejections : world.service.journal.status.admissionRejections =
      (troublesIn happenings).count .busy := by
    obtain ⟨source, engine, points, handlers, startedAt, surroundings, rfl⟩ := new
    rw [← troubles]
    exact advances.rejections.trans (Nat.zero_add _)
  have failed : ((looksIn deeds).filterMap Look.result?).countP FinalResult.isError ≤
      ((looksIn deeds).filterMap Look.result?).length := List.countP_le_length
  have ofTransport : (troublesIn happenings).countP Journal.Trouble.isOfTransport ≤
      (troublesIn happenings).length := List.countP_le_length
  have busy : (troublesIn happenings).count .busy ≤ (troublesIn happenings).length :=
    List.count_le_length
  have within (n : Nat) (bound : n < 2 ^ 64) : (UInt64.ofNat n).toNat = n :=
    UInt64.toNat_ofNat_of_lt bound
  constructor
  · simp only [Service.report, ServiceStatus.report, ServiceStatus.totalRequestErrors]
    rw [within _ (by omega), failures, transport, told, HttpResponse.countP_trouble?]
    omega
  · simp only [Service.report, ServiceStatus.report]
    rw [within _ (by omega), rejections, told, HttpResponse.count_busy]

theorem Ledger.totals (ledger : Ledger beginning happenings world deeds)
    (new : beginning.IsNew options) (books : Books happenings world deeds)
    (few : (askedIn happenings).length < 2 ^ 63) (settled : world.IsSettled) :
    world.service.report.totalRequests.toNat =
      (responses happenings).countP (HttpResponse.hasStatus 200) +
        (responses happenings).countP (HttpResponse.hasStatus 504) +
          (sentIn happenings).countP Sent.isUnwritten := by
  have accounts := ledger.accounts new
  have evaluated := books.length_results_le accounts
  have requests := (ledger.agrees new).evaluated
  have finished := accounts.length_finishedIn_eq settled.idle
  have held : world.tasks.flatMap Activity.tickets = [] :=
    List.flatMap_eq_nil_iff.mpr fun activity mem =>
      (books.regular activity mem).tickets (settled.answered activity mem)
  -- Nobody waits any more, so whatever was handed in has been responded to.
  have handed := books.handed
  rw [held, List.length_nil, Nat.add_zero] at handed
  have total : world.service.report.totalRequests.toNat =
      ((looksIn deeds).filterMap Look.result?).length := by
    simp only [Service.report, ServiceStatus.report]
    rw [requests]
    exact UInt64.toNat_ofNat_of_lt (Nat.lt_of_le_of_lt evaluated (Nat.lt_trans few (by decide)))
  rw [total, books.results, finished, handed, responses, Sent.countP_isOfAccepted]

/-! ## Evaluations of requests -/

def evaluationsFor (handed : List (Ticket × Request)) (deeds : List Deed) :
    List (Ticket × Request) :=
  (takenUp deeds).filter fun item => item.1 ∈ handed.map Prod.fst

/-- Whoever hands something in answers a request for a decision. -/
theorem Step.handing {next : World} {happening : Happening} {later : List Deed}
    (step : Step world happening next) (acts : Acts world happening later next.service)
    (regular : ∀ activity ∈ world.tasks, activity.IsRegular)
    (unanswered : world.service.Unanswered) (served : happening.isAside = false)
    {number : Nat} {job : Job} (accepted : .dealt number (.accepted job) ∈ later) :
    ∃ request phase progress, request.isAuthorization = true ∧
      happening = .turn (.answering .authorization request phase)
        (Progress.ofExchange request progress) := by
  obtain ⟨activity, own, asks⟩ := acts.accepted accepted
  have regular := regular activity (step.mem_of_activity? own)
  cases activity with
  | authorizing giveUp request ticket => cases regular
  | answering listener request phase =>
      cases happening with
      | turn activity progress =>
          cases own
          have counts := step.counts acts unanswered regular
          cases decides : (Activity.answering listener request phase).isDeciding with
          | true =>
              obtain ⟨rfl, authorizes⟩ := of_decide_eq_true decides
              obtain ⟨-, -, came⟩ := step.answered
              rw [Progress.map_sentTo authorizes] at came
              exact ⟨request, phase, _, authorizes, congrArg (Happening.turn _) came⟩
          | false =>
              have mem : (⟨number, job.number⟩, job.request) ∈ handedIn later :=
                mem_handedIn.mpr accepted
              rw [counts.handsNothing regular decides] at mem
              cases mem
      | dropped activity =>
          cases own
          cases served
      | _ => cases own
  | _ => cases asks

/-- Whatever was handed in was handed in at an exchange, as its only request. -/
theorem Ledger.attributed (ledger : Ledger beginning happenings world deeds)
    (new : beginning.IsNew options)
    (served : ∀ happening ∈ happenings, happening.isAside = false) :
    ∀ item ∈ handedIn deeds, ∃ request progress, request.isAuthorization = true ∧
      Exchange beginning request happenings world deeds [item] progress := by
  induction ledger with
  | start => simp [handedIn]
  | @step happenings world next happening deeds later earlier step acts ih =>
      have books := earlier.books new fun happening mem =>
        served happening (List.mem_append_left _ mem)
      have accounts := earlier.accounts new
      intro item mem
      rw [handedIn_append] at mem
      rcases List.mem_append.mp mem with before | now
      · obtain ⟨request, progress, authorizes, exchange⟩ :=
          ih (fun happening mem => served happening (List.mem_append_left _ mem)) item before
        exact ⟨request, progress, authorizes, exchange.meanwhile step acts⟩
      · obtain ⟨request, phase, progress, authorizes, rfl⟩ :=
          step.handing acts books.regular accounts.unanswered
            (served _ (by simp)) (mem_handedIn.mp now)
        have present := step.answered.1
        obtain ⟨handed, exchange⟩ := (earlier.exchanges new).1 request phase present
        have turned := exchange.turns progress step acts
        refine ⟨request, progress, authorizes, ?_⟩
        -- An exchange hands in one request at most, so this is the only one.
        have only : handed ++ handedIn later = [item] := by
          have here : item ∈ handed ++ handedIn later := List.mem_append_right _ now
          rcases turned.settles new authorizes with ⟨none, -⟩ | ⟨ticket, asked, one, -⟩
          · rw [none] at here
            cases here
          · rw [one] at here ⊢
            rw [List.mem_singleton.mp here]
        exact only ▸ turned

/-- A request was handed in once, and this is the result of its only evaluation. -/
structure IsEvaluated (codec : Codec) (beginning : World) (request : HttpRequest)
    (deeds : List Deed) (handed : List (Ticket × Request)) (ticket : Ticket) (asked : Request)
    (result : FinalResult) : Prop where
  handsIn : handed = [(ticket, asked)]
  decodes : codec.Decodes request.body asked
  once : evaluationsFor handed deeds = [(ticket, asked)]
  finished : (⟨ticket.number, asked⟩, result) ∈ jobsFinished (dealingsAt ticket.shell deeds)
  pursued : ∃ policy past middle look, Pursuit beginning asked policy past middle look ∧
    look.run.2 = .done result
  named : result.requestId = asked.id

/-- The codec cannot write the result of the only evaluation, and the response tells why. -/
def EndsUnwritten (codec : Codec) (beginning : World) (request : HttpRequest) (deeds : List Deed)
    (handed : List (Ticket × Request)) (response : HttpResponse) : Prop :=
  ∃ ticket asked result fault,
    IsEvaluated codec beginning request deeds handed ticket asked result ∧
    codec.encodeResult result = .error fault ∧ response = Service.unwrittenResponse fault

/-- What is owed to a request for a decision that was responded to.  A request that was refused is
never evaluated, a decision is the result of its only evaluation, and an error of the server is a
fault of the body or a result that the codec cannot write. -/
structure IsFulfilled (codec : Codec) (beginning : World) (request : HttpRequest)
    (deeds : List Deed) (handed : List (Ticket × Request)) (response : HttpResponse) : Prop where
  ends : response.status ∈ [200, 408, 500, 503, 504]
  refused : response.status = 408 ∨ response.status = 503 →
    handed = [] ∧ evaluationsFor handed deeds = []
  decided : response.status = 200 → ∃ ticket asked result,
    IsEvaluated codec beginning request deeds handed ticket asked result ∧
    codec.encodeResult result = .ok response.body ∧ response.contentType = codec.contentType ∧
    ∀ entityId, codec = .json entityId →
      ∃ members, Json.parse response.body = some (.object members) ∧
        members.lookup "in_response_to" = some (.string asked.id)
  failed : response.status = 500 →
    (handed = [] ∧ evaluationsFor handed deeds = [] ∧
      ∃ fault, response = Service.faultResponse codec fault) ∨
    EndsUnwritten codec beginning request deeds handed response
  late : response.status = 504 → ∃ ticket asked, handed = [(ticket, asked)] ∧
    codec.Decodes request.body asked ∧ response = .timedOut

theorem IsFulfilled.ofNothing {codec : Codec} {request : HttpRequest} {response : HttpResponse}
    (ends : response.status ∈ [408, 500, 503])
    (failed : response.status = 500 → ∃ fault, response = Service.faultResponse codec fault) :
    IsFulfilled codec beginning request deeds [] response := by
  have none : evaluationsFor [] deeds = [] := by simp [evaluationsFor]
  simp only [List.mem_cons, List.not_mem_nil, or_false] at ends
  refine ⟨?_, fun _ => ⟨rfl, none⟩, ?_, fun failure => .inl ⟨rfl, none, failed failure⟩, ?_⟩
  · simp only [List.mem_cons, List.not_mem_nil, or_false]
    omega
  · intro decided
    omega
  · intro late
    omega

theorem IsFulfilled.ofWithheld {codec : Codec} {request : HttpRequest} {response : HttpResponse}
    (withheld : Service.Withheld codec (.done response)) :
    IsFulfilled codec beginning request deeds [] response := by
  rcases withheld with rfl | ⟨fault, rfl⟩ | ⟨fault, rfl⟩
  · refine .ofNothing (by decide) ?_
    intro failure
    cases failure
  · exact .ofNothing (by simp [Service.faultResponse]) fun _ => ⟨fault, rfl⟩
  · refine .ofNothing (by cases fault <;> decide) ?_
    intro failure
    cases fault <;> cases failure

theorem IsFulfilled.ofTimedOut {codec : Codec} {request : HttpRequest} {ticket : Ticket}
    {asked : Request} (decodes : codec.Decodes request.body asked) :
    IsFulfilled codec beginning request deeds [(ticket, asked)] .timedOut := by
  refine ⟨by decide, ?_, ?_, ?_, fun _ => ⟨ticket, asked, rfl, decodes, rfl⟩⟩
  · rintro (early | closed)
    · cases early
    · cases closed
  all_goals
    intro other
    cases other

theorem IsFulfilled.ofResult {codec : Codec} {request : HttpRequest}
    {handed : List (Ticket × Request)} {ticket : Ticket} {asked : Request} {result : FinalResult}
    (evaluated : IsEvaluated codec beginning request deeds handed ticket asked result) :
    IsFulfilled codec beginning request deeds handed (Service.resultResponse codec result) := by
  unfold Service.resultResponse
  cases encoded : codec.encodeResult result with
  | ok body =>
      refine ⟨by simp, by simp, fun _ => ⟨ticket, asked, result, evaluated, encoded, rfl, ?_⟩,
        by simp, by simp⟩
      rintro entityId rfl
      cases encoded
      have read := ResponseMessage.parse_encode entityId result
      rw [evaluated.named] at read
      exact read
  | error fault =>
      refine ⟨by simp [Service.unwrittenResponse, HttpResponse.plain], ?_, ?_,
        fun _ => .inr ⟨ticket, asked, result, fault, evaluated, encoded, rfl⟩, ?_⟩
      · rintro (early | closed)
        · cases early
        · cases closed
      all_goals
        intro other
        cases other

theorem Exchange.fulfilled {request : HttpRequest} {handed : List (Ticket × Request)}
    {response : HttpResponse} (authorizes : request.isAuthorization = true)
    (exchange : Exchange beginning request happenings world deeds handed (.done response))
    (new : beginning.IsNew options) :
    IsFulfilled beginning.surroundings.codec beginning request deeds handed response := by
  have accounts := exchange.ledger.accounts new
  rcases exchange.settles new authorizes with
    ⟨rfl, fresh | withheld⟩ | ⟨ticket, asked, rfl, decodes, ⟨deadline, waits⟩ | late | decided⟩
  · cases fresh
  · exact .ofWithheld withheld
  · cases waits
  · cases late
    exact .ofTimedOut decodes
  · obtain ⟨result, finished, same⟩ := decided
    cases same
    obtain ⟨worker, done⟩ := dealt_of_finished finished
    obtain ⟨policy, past, middle, look, pursuit, seen⟩ :=
      exchange.ledger.finished (by simp [new.tasks]) done
    have named := pursuit.carries
    rw [seen] at named
    have once := accounts.takenUp_once (accounts.takenUp_of_finished finished)
    exact .ofResult ⟨rfl, decodes, by simpa [evaluationsFor] using once, finished,
      ⟨policy, past, middle, look, pursuit, seen⟩, named⟩

theorem IsFulfilled.endsUnwritten_iff {codec : Codec} {request : HttpRequest}
    {handed : List (Ticket × Request)} {response : HttpResponse}
    (fulfilled : IsFulfilled codec beginning request deeds handed response) :
    EndsUnwritten codec beginning request deeds handed response ↔
      response.status = 500 ∧ handed ≠ [] := by
  constructor
  · rintro ⟨ticket, asked, result, fault, evaluated, -, rfl⟩
    exact ⟨rfl, by simp [evaluated.handsIn]⟩
  · rintro ⟨failure, some⟩
    exact (fulfilled.failed failure).resolve_left fun nothing => some nothing.1

/-- What can be told of the requests for decisions in a run. -/
structure Reckons (beginning : World) (happenings : List Happening) (world : World)
    (deeds : List Deed) : Prop where
  tallies : world.service.report.Tallies ((looksIn deeds).filterMap Look.result?)
    (responses happenings)
  totals : world.IsSettled → world.service.report.totalRequests.toNat =
    (responses happenings).countP (HttpResponse.hasStatus 200) +
      (responses happenings).countP (HttpResponse.hasStatus 504) +
        (sentIn happenings).countP Sent.isUnwritten
  begun : evaluationsBegun deeds = (takenUp deeds).map Prod.snd
  attributed : ∀ item ∈ takenUp deeds, ∃ request progress, request.isAuthorization = true ∧
    Exchange beginning request happenings world deeds [item] progress
  /-- The responses that count as unwritten are those to results that the codec cannot write. -/
  exchanged : ∀ sent ∈ sentIn happenings,
    ∃ handed, Exchange beginning sent.request happenings world deeds handed
        (.done sent.response) ∧
      (sent.isUnwritten = true ↔
        EndsUnwritten beginning.surroundings.codec beginning sent.request deeds handed
          sent.response)
  fulfilled : ∀ request handed response, request.isAuthorization = true →
    Exchange beginning request happenings world deeds handed (.done response) →
      IsFulfilled beginning.surroundings.codec beginning request deeds handed response

end Runs

end World

/-- In every run in which all requests come by the endpoint, the totals of the status are those of
the results and of the responses, whatever the codec can write.  A request that is refused is never
evaluated, and each decision is the result of the only evaluation of the request that it names. -/
theorem requests_are_accounted_for (options : ServiceOptions) (beginning world : World)
    (happenings : List Happening) (new : beginning.IsNew options)
    (run : World.Run beginning happenings world)
    (served : ∀ happening ∈ happenings, happening.isAside = false)
    (few : (askedIn happenings).length < 2 ^ 63) :
    (∃ deeds, World.Ledger beginning happenings world deeds) ∧
      ∀ deeds, World.Ledger beginning happenings world deeds →
        World.Reckons beginning happenings world deeds := by
  refine ⟨run.ledger, ?_⟩
  intro deeds ledger
  have books := ledger.books new served
  have accounts := ledger.accounts new
  have attributed := ledger.attributed new served
  refine ⟨ledger.tallies new books few, ledger.totals new books few, books.begun, ?_, ?_, ?_⟩
  · intro item taken
    exact attributed item (accounts.takenUp_subset taken)
  · intro sent mem
    obtain ⟨handed, exchange, unwritten⟩ := (ledger.exchanges new).2 sent mem
    obtain ⟨happening, -, sends⟩ := List.mem_filterMap.mp mem
    have fulfilled := exchange.fulfilled (Happening.of_sent? sends).1 new
    exact ⟨handed, exchange, unwritten.trans fulfilled.endsUnwritten_iff.symm⟩
  · intro request handed response authorizes exchange
    exact exchange.fulfilled authorizes new

/-! ## One decision and two failures -/

namespace SampleResponses

def permitting : Engine := fun _ _ => .decided (.new .permit [] none)

def options : ServiceOptions := { ServiceOptions.default with admission := ⟨1, some 1⟩ }

/-- A codec that takes bodies of one byte and of two, and can write the results of the former. -/
def terse : Codec where
  contentType := "text/plain"
  decode _ body :=
    match body.size with
    | 1 => .ok (.blank "short")
    | 2 => .ok (.blank "long")
    | _ => .error .empty
  encodeResult result :=
    if result.requestId = "short" then .ok result.outcome.decision.name else .error ⟨"too long"⟩
  encodeFault := RequestFault.message

/-- The server takes bodies of two bytes. -/
def surroundings : Surroundings := ⟨{ ServerOptions.default with maxBodyBytes := 2 }, true, terse⟩

def beginning : World :=
  .start (.new options (.always (.ok (.new "alpha" "1" .epoch))) permitting [] .empty .epoch)
    surroundings

def asking (body : ByteArray) : HttpRequest := ⟨"POST", "/authz", body, true⟩

end SampleResponses

open SampleResponses in
/-- One request is decided, the result of another cannot be written, and the body of a third is too
large: two requests are counted, and two errors. -/
theorem decision_and_fault :
    ∃ happenings world deeds, World.Run beginning happenings world ∧ world.IsSettled ∧
      (World.responses happenings).map HttpResponse.status = [200, 500, 500] ∧
      (sentIn happenings).countP Sent.isUnwritten = 1 ∧
      world.service.report.totalRequests = 2 ∧ world.service.report.totalRequestErrors = 2 ∧
      World.Reckons beginning happenings world deeds := by
  have opened : World.Run beginning _ _ :=
    .step (.step (.step .start (.begins (.starting .fresh) rfl))
      (.turns [] [] _ _ _ rfl rfl)) .joins
  have handed : World.Run beginning _ _ :=
    .step (.step opened (.begins (.answering .authorization (asking ⟨#[1]⟩) .fresh) rfl))
      (.turns [_, _] [] _ _ _ rfl rfl)
  have decided : World.Run beginning _ _ :=
    .step (.step handed (.turns [_] [_] _ _ _ rfl rfl)) (.turns [_, _] [] _ _ _ rfl rfl)
  have handed' : World.Run beginning _ _ :=
    .step (.step decided (.begins (.answering .authorization (asking ⟨#[1, 2]⟩) .fresh) rfl))
      (.turns [_, _] [] _ _ _ rfl rfl)
  have unwritten : World.Run beginning _ _ :=
    .step (.step handed' (.turns [_] [_] _ _ _ rfl rfl)) (.turns [_, _] [] _ _ _ rfl rfl)
  have refused : World.Run beginning _ _ :=
    .step (.step unwritten (.begins (.answering .authorization (asking ⟨#[1, 2, 3]⟩) .fresh) rfl))
      (.turns [_, _] [] _ _ _ rfl rfl)
  have new : beginning.IsNew options := ⟨_, _, _, _, _, _, rfl⟩
  obtain ⟨⟨deeds, ledger⟩, reckoned⟩ :=
    requests_are_accounted_for options _ _ _ new refused (by decide) (by decide)
  refine ⟨_, _, deeds, refused, ⟨?_, ?_⟩, ?_, ?_, ?_, ?_, reckoned deeds ledger⟩
  · decide
  · decide
  · decide
  · decide
  · rfl
  · rfl

end DecisionPoint
