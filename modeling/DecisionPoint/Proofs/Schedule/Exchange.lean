import DecisionPoint.Proofs.Admission.Conservation
import DecisionPoint.Proofs.Http.Authorizing
import DecisionPoint.Proofs.Schedule.Recording

/-!
# Exchanges

An `Exchange` follows a request at the listener for authorization through a run, from its beginning
to its response and on, with what it hands in at its turns.  It hands in one request or none, and
its response is that to what it has handed in.
-/

set_option autoImplicit false

namespace DecisionPoint

def Progress.ofExchange (request : HttpRequest) (progress : Progress HttpResponse ExchangePhase) :
    Progress Answer Activity :=
  progress.map .responded (.answering .authorization request)

theorem HttpResponse.sentTo_of_isAuthorization {request : HttpRequest}
    (authorizes : request.isAuthorization = true) (response : HttpResponse) :
    response.sentTo request = response := by
  obtain ⟨verb, -⟩ := of_decide_eq_true authorizes
  rw [sentTo, verb, if_neg (by decide)]

theorem Progress.map_sentTo {request : HttpRequest} (authorizes : request.isAuthorization = true)
    (progress : Progress HttpResponse ExchangePhase) :
    (progress.map (fun response => .responded (response.sentTo request))
      (.answering .authorization request) : Progress Answer Activity) =
        progress.ofExchange request := by
  simp only [HttpResponse.sentTo_of_isAuthorization authorizes]
  rfl

theorem Progress.ofExchange_injective (request : HttpRequest) :
    Function.Injective (Progress.ofExchange request) :=
  Progress.map_injective (fun _ _ => Answer.responded.inj) fun _ _ same =>
    (Activity.answering.inj same).2.2

/-- The response to a request for a decision that is sent when something happens. -/
def Happening.sent? : Happening → Option Sent
  | turn (.answering .authorization request phase) (.done (.responded response)) =>
    if request.isAuthorization then some ⟨request, phase, response⟩ else none
  | _ => none

def sentIn (happenings : List Happening) : List Sent :=
  happenings.filterMap Happening.sent?

theorem Happening.of_sent? {happening : Happening} {sent : Sent}
    (sends : happening.sent? = some sent) :
    sent.request.isAuthorization = true ∧
      happening = .turn (.answering .authorization sent.request sent.phase)
        (.done (.responded sent.response)) := by
  unfold sent? at sends
  split at sends
  · split at sends
    · next asked =>
        cases sends
        exact ⟨asked, rfl⟩
    · cases sends
  · cases sends

theorem Accounts.unanswered {options : ServiceOptions} {deeds : List Deed} {service : Service}
    {activities : List Activity} (accounts : Accounts options deeds service activities) :
    service.Unanswered := by
  intro ticket new
  cases answered : service.answer? ticket with
  | none => rfl
  | some result =>
      obtain ⟨shell, found, kept⟩ := Option.bind_eq_some_iff.mp answered
      obtain ⟨queues, -, works, answers, -⟩ :=
        (accounts.shells ticket.shell shell found).1.conserves
      obtain ⟨before, after, split, -⟩ := List.lookup_eq_some_iff.mp kept
      have mem : (ticket.number, result) ∈ shell.answers := by simp [split]
      obtain ⟨-, job, same, finished⟩ := (answers.answers _ _).mp mem
      have accepted := Shell.accepted_of_finished queues works finished
      have submitted := works.accepted.subset (List.mem_map.mpr ⟨job, accepted, same⟩)
      exact absurd (accounts.submitted _ _ submitted) (Nat.not_lt.mpr new)

namespace World

theorem IsNew.tasks {options : ServiceOptions} {beginning : World}
    (new : beginning.IsNew options) : beginning.tasks = [] := by
  obtain ⟨source, engine, points, handlers, startedAt, surroundings, rfl⟩ := new
  rfl

/-- An exchange in a run: the requests that it has handed in with their tickets, and how far it
is. -/
inductive Exchange (beginning : World) (request : HttpRequest) :
    List Happening → World → List Deed → List (Ticket × Request) →
      Progress HttpResponse ExchangePhase → Prop where
  | begins {happenings : List Happening} {world : World} {deeds : List Deed}
      (ledger : Ledger beginning happenings world deeds)
      (waits : .answering .authorization request .fresh ∈ world.tasks) :
      Exchange beginning request happenings world deeds [] (.waiting .fresh)
  | meanwhile {happenings : List Happening} {world next : World} {deeds later : List Deed}
      {handed : List (Ticket × Request)} {progress : Progress HttpResponse ExchangePhase}
      {happening : Happening}
      (earlier : Exchange beginning request happenings world deeds handed progress)
      (step : Step world happening next) (acts : Acts world happening later next.service) :
      Exchange beginning request (happenings ++ [happening]) next (deeds ++ later) handed progress
  | turns {happenings : List Happening} {world next : World} {deeds later : List Deed}
      {handed : List (Ticket × Request)} {phase : ExchangePhase}
      (progress : Progress HttpResponse ExchangePhase)
      (earlier : Exchange beginning request happenings world deeds handed (.waiting phase))
      (step : Step world
        (.turn (.answering .authorization request phase) (progress.ofExchange request)) next)
      (acts : Acts world
        (.turn (.answering .authorization request phase) (progress.ofExchange request)) later
        next.service) :
      Exchange beginning request
        (happenings ++
          [.turn (.answering .authorization request phase) (progress.ofExchange request)])
        next (deeds ++ later) (handed ++ handedIn later) progress

section Exchanges

variable {beginning world next : World} {request : HttpRequest} {happenings : List Happening}
  {deeds later : List Deed} {handed : List (Ticket × Request)}
  {progress : Progress HttpResponse ExchangePhase} {options : ServiceOptions} {codec : Codec}

theorem Exchange.ledger
    (exchange : Exchange beginning request happenings world deeds handed progress) :
    Ledger beginning happenings world deeds := by
  induction exchange with
  | begins ledger waits => exact ledger
  | meanwhile earlier step acts ih => exact ih.step step acts
  | turns progress earlier step acts ih => exact ih.step step acts

theorem Exchange.handed_mem
    (exchange : Exchange beginning request happenings world deeds handed progress) :
    ∀ item ∈ handed, item ∈ handedIn deeds := by
  induction exchange with
  | begins ledger waits => simp
  | meanwhile earlier step acts ih =>
      intro item mem
      rw [handedIn_append]
      exact List.mem_append_left _ (ih item mem)
  | turns progress earlier step acts ih =>
      intro item mem
      rw [handedIn_append]
      rcases List.mem_append.mp mem with before | now
      · exact List.mem_append_left _ (ih item before)
      · exact List.mem_append_right _ now

/-! ## Turns of exchanges -/

theorem Step.answered {listener : Listener} {phase : ExchangePhase}
    {came : Progress Answer Activity}
    (step : Step world (.turn (.answering listener request phase) came) next) :
    .answering listener request phase ∈ world.tasks ∧
      next.service = (world.service.answer world.now world.surroundings.codec
        world.surroundings.server world.surroundings.metrics listener request phase).1 ∧
      came = (world.service.answer world.now world.surroundings.codec
        world.surroundings.server world.surroundings.metrics listener request phase).2.map
          (fun response => .responded (response.sentTo request)) (.answering listener request) := by
  cases step with
  | turns left right activity service progress split ran =>
      simp only [Activity.part, Activity.run, Prod.mk.injEq] at ran
      obtain ⟨rfl, rfl⟩ := ran
      exact ⟨by simp [split], rfl, rfl⟩

theorem Acts.ofAnswering {listener : Listener} {phase : ExchangePhase}
    {came : Progress Answer Activity} {after : Service}
    (acts : Acts world (.turn (.answering listener request phase) came) later after) :
    Service.Does false world.service later after := by
  cases acts with
  | rests quiet rests => cases quiet
  | does other does => exact does.does

/-- What has become of a request: it was not handed in, or it was handed in once, and then its
response is that to its result, if it is not that the result came too late. -/
def Settles (codec : Codec) (request : HttpRequest) (deeds : List Deed)
    (handed : List (Ticket × Request)) (progress : Progress HttpResponse ExchangePhase) : Prop :=
  (handed = [] ∧ (progress = .waiting .fresh ∨ Service.Withheld codec progress)) ∨
    ∃ ticket asked, handed = [(ticket, asked)] ∧ codec.Decodes request.body asked ∧
      ((∃ deadline, progress = .waiting (.authorizing ticket deadline)) ∨
        progress = .done .timedOut ∨
        ∃ result, (⟨ticket.number, asked⟩, result) ∈ jobsFinished (dealingsAt ticket.shell deeds) ∧
          progress = .done (Service.resultResponse codec result))

theorem Settles.grown (settles : Settles codec request deeds handed progress)
    (more : List Deed) : Settles codec request (deeds ++ more) handed progress := by
  rcases settles with withheld | ⟨ticket, asked, one, decodes, came⟩
  · exact .inl withheld
  · refine .inr ⟨ticket, asked, one, decodes, came.imp_right (Or.imp_right ?_)⟩
    rintro ⟨result, finished, response⟩
    exact ⟨result, finished_append finished more, response⟩

theorem Settles.ofTurns {service : Service} {body : Service.Answering}
    (turns : service.Turns codec request.body body) (run : body.2 = progress)
    (does : Service.Does false service later body.1) :
    Settles codec request deeds ([] ++ handedIn later) progress := by
  rw [← run]
  rcases turns.outcome does with ⟨none, withheld⟩ | ⟨ticket, asked, one, decodes, late | awaits⟩
  · exact .inl ⟨by simp [none], .inr withheld⟩
  · exact .inr ⟨ticket, asked, by simp [one], decodes, .inr (.inl late)⟩
  · exact .inr ⟨ticket, asked, by simp [one], decodes, .inl awaits⟩

theorem Ledger.finished_of_answer? (new : beginning.IsNew options)
    (ledger : Ledger beginning happenings world deeds) {activity : Activity} {ticket : Ticket}
    (present : activity ∈ world.tasks) (held : ticket ∈ activity.tickets) {asked : Request}
    (accepted : .dealt ticket.shell (.accepted ⟨ticket.number, asked⟩) ∈ deeds)
    {result : FinalResult} (answered : world.service.answer? ticket = some result) :
    (⟨ticket.number, asked⟩, result) ∈ jobsFinished (dealingsAt ticket.shell deeds) := by
  have waits := (ledger.holders new).waits activity present ticket held
  rw [← mem_dealingsAt] at accepted waits
  obtain ⟨shell, found, kept⟩ := Option.bind_eq_some_iff.mp answered
  have life := ((ledger.accounts new).shells ticket.shell shell found).1
  exact (life.answer?_eq_some_iff ⟨ticket.number, asked⟩ accepted waits result).mp kept

theorem Exchange.settles_awaited (new : beginning.IsNew options) {ticket : Ticket}
    {deadline : Nat} {asked : Request} {after : Service}
    (decodes : codec.Decodes request.body asked)
    (earlier : Exchange beginning request happenings world deeds [(ticket, asked)]
      (.waiting (.authorizing ticket deadline)))
    (present : .answering .authorization request (.authorizing ticket deadline) ∈ world.tasks)
    (run : world.service.awaitResult world.now codec ticket deadline = (after, progress))
    (does : Service.Does false world.service later after) :
    Settles codec request (deeds ++ later) ([(ticket, asked)] ++ handedIn later) progress := by
  obtain ⟨canonical, does', awaits⟩ :=
    world.service.awaitResult_does world.now codec ticket deadline
  have awaited := world.service.awaitResult_awaited world.now codec ticket deadline
  have nothing := Service.handedIn_of_awaits awaits
  rw [run] at awaited does'
  rw [does.handedIn_eq does' (by simp [nothing]), nothing]
  refine .inr ⟨ticket, asked, rfl, decodes, ?_⟩
  cases progress with
  | waiting phase => exact .inl (awaited.imp fun _ same => by rw [same])
  | done response =>
      rcases awaited with rfl | ⟨result, answered, rfl⟩
      · exact .inr (.inl rfl)
      · have accepted := mem_handedIn.mp (earlier.handed_mem _ (List.mem_singleton_self _))
        have finished := earlier.ledger.finished_of_answer? new present
          (List.mem_singleton_self ticket) accepted answered
        exact .inr (.inr ⟨result, finished_append finished later, rfl⟩)

/-- A turn of an exchange is that of the answer to its request, with the codec of the beginning. -/
theorem Exchange.answers {phase : ExchangePhase} (authorizes : request.isAuthorization = true)
    (earlier : Exchange beginning request happenings world deeds handed (.waiting phase))
    (step : Step world
      (.turn (.answering .authorization request phase) (progress.ofExchange request)) next) :
    .answering .authorization request phase ∈ world.tasks ∧
      (world.service.answer world.now beginning.surroundings.codec world.surroundings.server
        world.surroundings.metrics .authorization request phase).2 = progress ∧
      next.service = (world.service.answer world.now beginning.surroundings.codec
        world.surroundings.server world.surroundings.metrics .authorization request phase).1 := by
  obtain ⟨present, service, came⟩ := step.answered
  rw [Progress.map_sentTo authorizes] at came
  rw [earlier.ledger.run.surroundings] at came service
  rw [earlier.ledger.run.surroundings]
  exact ⟨present, (Progress.ofExchange_injective request came).symm, service⟩

/-- In every run, an exchange hands in one request at most, and its response is that to it. -/
theorem Exchange.settles (new : beginning.IsNew options)
    (authorizes : request.isAuthorization = true)
    (exchange : Exchange beginning request happenings world deeds handed progress) :
    Settles beginning.surroundings.codec request deeds handed progress := by
  induction exchange with
  | begins ledger waits => exact .inl ⟨rfl, .inl rfl⟩
  | meanwhile earlier step acts ih => exact Settles.grown ih _
  | @turns happenings world next deeds later handed phase progress earlier step acts ih =>
      have accounts := earlier.ledger.accounts new
      have does := acts.ofAnswering
      obtain ⟨present, run, service⟩ := earlier.answers authorizes step
      rw [service] at does
      rcases ih with ⟨rfl, fresh | ⟨deadline, rfl⟩⟩ | ⟨ticket, asked, rfl, decodes, later⟩
      · cases fresh
        exact Settles.ofTurns (world.service.answer_turns world.now _ _ _ accounts.unanswered
          request authorizes) run does
      · exact Settles.ofTurns (world.service.answer_reading_turns world.now _ _ _ _ request
          deadline) run does
      · rcases later with ⟨deadline, waits⟩ | late | ⟨result, -, ended⟩
        · cases waits
          exact earlier.settles_awaited new decodes present (Prod.ext rfl run) does
        · cases late
        · cases ended

/-- A result that cannot be written is one of a request that was handed in. -/
theorem Exchange.isUnwritten_iff (new : beginning.IsNew options)
    (authorizes : request.isAuthorization = true) {phase : ExchangePhase}
    {response : HttpResponse}
    (earlier : Exchange beginning request happenings world deeds handed (.waiting phase))
    (step : Step world (.turn (.answering .authorization request phase)
      (Progress.ofExchange request (.done response))) next)
    (acts : Acts world (.turn (.answering .authorization request phase)
      (Progress.ofExchange request (.done response))) later next.service) :
    Sent.isUnwritten ⟨request, phase, response⟩ = true ↔
      response.status = 500 ∧ handed ++ handedIn later ≠ [] := by
  have accounts := earlier.ledger.accounts new
  have does := acts.ofAnswering
  obtain ⟨-, run, service⟩ := earlier.answers authorizes step
  rw [service] at does
  have early (turns : world.service.Turns beginning.surroundings.codec request.body
      (world.service.answer world.now beginning.surroundings.codec world.surroundings.server
        world.surroundings.metrics .authorization request phase))
      (before : phase.isAwaiting = false) :
      Sent.isUnwritten ⟨request, phase, response⟩ = true ↔
        response.status = 500 ∧ [] ++ handedIn later ≠ [] := by
    rcases turns.outcome does with ⟨none, -⟩ | ⟨ticket, asked, one, -, late | ⟨deadline, waits⟩⟩
    · simp [Sent.isUnwritten, before, none]
    · cases run.symm.trans late
      simp [Sent.isUnwritten, HttpResponse.timedOut, HttpResponse.plain]
    · cases run.symm.trans waits
  rcases earlier.settles new authorizes with
    ⟨rfl, fresh | ⟨deadline, rfl⟩⟩ | ⟨ticket, asked, rfl, -, ⟨deadline, waits⟩ | late | ended⟩
  · cases fresh
    exact early (world.service.answer_turns world.now _ _ _ accounts.unanswered request
      authorizes) rfl
  · exact early (world.service.answer_reading_turns world.now _ _ _ _ request deadline) rfl
  · cases waits
    simp [Sent.isUnwritten, ExchangePhase.isAwaiting]
  · cases late
  · obtain ⟨result, -, ended⟩ := ended
    cases ended

/-- Every request that waits, and every request that was responded to, has gone through an
exchange. -/
theorem Ledger.exchanges (ledger : Ledger beginning happenings world deeds)
    (new : beginning.IsNew options) :
    (∀ request phase, .answering .authorization request phase ∈ world.tasks →
      ∃ handed, Exchange beginning request happenings world deeds handed (.waiting phase)) ∧
    ∀ sent ∈ sentIn happenings,
      ∃ handed, Exchange beginning sent.request happenings world deeds handed
          (.done sent.response) ∧
        (sent.isUnwritten = true ↔ sent.response.status = 500 ∧ handed ≠ []) := by
  induction ledger with
  | start => simp [new.tasks, sentIn]
  | @step happenings world next happening deeds later earlier step acts ih =>
      obtain ⟨waiting, responded⟩ := ih
      constructor
      · intro request phase mem
        rcases step.mem_tasks mem with before | fresh | ⟨spawned, -, other⟩ | ⟨_, own, rfl, kin⟩
        · obtain ⟨handed, exchange⟩ := waiting request phase before
          exact ⟨handed, exchange.meanwhile step acts⟩
        · cases phase with
          | fresh => exact ⟨[], .begins (earlier.step step acts) mem⟩
          | _ => cases fresh
        · cases spawned <;> cases other
        · cases kin with
          | answering =>
              obtain ⟨handed, exchange⟩ := waiting request _ own
              exact ⟨_, exchange.turns (.waiting phase) step acts⟩
      · intro sent mem
        rw [sentIn, List.filterMap_append] at mem
        rcases List.mem_append.mp mem with before | now
        · obtain ⟨handed, exchange, unwritten⟩ := responded sent before
          exact ⟨handed, exchange.meanwhile step acts, unwritten⟩
        · obtain ⟨happening', here, sends⟩ := List.mem_filterMap.mp now
          cases List.mem_singleton.mp here
          obtain ⟨authorizes, rfl⟩ := Happening.of_sent? sends
          obtain ⟨handed, exchange⟩ := waiting sent.request sent.phase step.answered.1
          exact ⟨_, exchange.turns (.done sent.response) step acts,
            exchange.isUnwritten_iff new authorizes step acts⟩

end Exchanges

end World

end DecisionPoint
