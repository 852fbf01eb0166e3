import DecisionPoint.Proofs.Admission.Account

/-!
# Expected requesters are there

A shell expects the requesters of its jobs, and its workers do not end before these have gone away.
Whomever a shell expects holds the ticket among the activities, so that no worker waits in vain.
-/

set_option autoImplicit false

namespace DecisionPoint

/-- A shell waits for the requester of a job. -/
def Service.Expects (service : Service) (ticket : Ticket) : Prop :=
  ∃ shell, service.shell? ticket.shell = some shell ∧ ticket.number ∈ shell.requesters

/-- What the holder of some tickets does: those that are expected afterwards it holds then, or they
were expected before and are not its own. -/
def Keeps (held : List Ticket) (before after : Service) (held' : List Ticket) : Prop :=
  ∀ ticket, after.Expects ticket → ticket ∈ held' ∨ ticket ∉ held ∧ before.Expects ticket

theorem Keeps.trans {held held' held'' : List Ticket} {a b c : Service}
    (first : Keeps held a b held') (second : Keeps held' b c held'') : Keeps held a c held'' := by
  intro ticket expected
  rcases second ticket expected with mine | ⟨other, before⟩
  · exact .inl mine
  · exact .inr ((first ticket before).resolve_left other)

theorem Keeps.still {before after : Service}
    (fewer : ∀ ticket, after.Expects ticket → before.Expects ticket) (held : List Ticket) :
    Keeps held before after held := by
  intro ticket expected
  by_cases mine : ticket ∈ held
  · exact .inl mine
  · exact .inr ⟨mine, fewer ticket expected⟩

namespace Service

/-- Every shell was there before, with at least its requesters and its workers. -/
def Shrinks (before after : Service) : Prop :=
  ∀ number shell', after.shell? number = some shell' →
    ∃ shell, before.shell? number = some shell ∧ shell'.requesters ⊆ shell.requesters ∧
      shell'.alive ≤ shell.alive

section Shells

variable {a b c : Service} {number : Nat} {shell shell' : Shell}

theorem Shrinks.ofShells (same : b.shells = a.shells) : a.Shrinks b := by
  intro number shell found
  rw [shell?, same] at found
  exact ⟨shell, found, List.Subset.refl _, Nat.le_refl _⟩

theorem Shrinks.trans (first : a.Shrinks b) (second : b.Shrinks c) : a.Shrinks c := by
  intro number shell'' found''
  obtain ⟨shell', found', requesters', alive'⟩ := second number shell'' found''
  obtain ⟨shell, found, requesters, alive⟩ := first number shell' found'
  have fewer := List.Subset.trans requesters' requesters
  exact ⟨shell, found, fewer, Nat.le_trans alive' alive⟩

theorem Shrinks.ofWithShell (found : a.shell? number = some shell)
    (requesters : shell'.requesters ⊆ shell.requesters) (alive : shell'.alive ≤ shell.alive) :
    a.Shrinks (a.withShell number shell') := by
  intro other shell'' found'
  rw [a.shell?_withShell found] at found'
  split at found'
  · next same =>
      cases found'
      exact ⟨shell, same ▸ found, requesters, alive⟩
  · exact ⟨shell'', found', List.Subset.refl _, Nat.le_refl _⟩

theorem Shrinks.ofUpdateShell {update : Shell → Shell}
    (requesters : ∀ shell, (update shell).requesters ⊆ shell.requesters)
    (alive : ∀ shell, (update shell).alive ≤ shell.alive) :
    a.Shrinks (a.updateShell number update) := by
  cases found : a.shell? number with
  | none => exact .ofShells (by rw [updateShell, found])
  | some shell =>
      rw [a.updateShell_of_found found]
      exact .ofWithShell found (requesters shell) (alive shell)

theorem Shrinks.expects (shrinks : a.Shrinks b) (ticket : Ticket) (expected : b.Expects ticket) :
    a.Expects ticket := by
  obtain ⟨shell', found', waits⟩ := expected
  obtain ⟨shell, found, requesters, -⟩ := shrinks ticket.shell shell' found'
  exact ⟨shell, found, requesters waits⟩

end Shells

theorem leave_shrinks (service : Service) (ticket : Ticket) :
    service.Shrinks (service.leave ticket) := by
  unfold leave
  split
  · exact .ofShells rfl
  · next shell found =>
      exact .ofWithShell found (fun _ mem => List.mem_of_mem_filter mem) (Nat.le_refl _)

theorem Does.expects {governing : Bool} {before after : Service} {deeds : List Deed}
    (does : Does governing before deeds after)
    (nothing : ∀ number job, .dealt number (.accepted job) ∉ deeds) (ticket : Ticket)
    (expected : after.Expects ticket) : before.Expects ticket := by
  induction does with
  | rests rests => exact (Shrinks.ofShells rests.shells).expects ticket expected
  | governs governs => exact (Shrinks.ofShells governs.shells).expects ticket expected
  | accepts admits found answer => exact absurd (List.mem_singleton_self _) (nothing _ _)
  | @isBusy governing service number shell request admits found answer =>
      have refused : service.Shrinks (service.withShell number shell.refuse) :=
        .ofWithShell found (List.Subset.refl _) (Nat.le_refl _)
      exact (refused.trans (.ofShells rfl)).expects ticket expected
  | isClosed admits found answer => exact (Shrinks.ofShells rfl).expects ticket expected
  | turnsAway shut => exact expected
  | @leaves governing service ticket' shell found =>
      have left := service.leave_shrinks ticket'
      rw [leave, found] at left
      exact left.expects ticket expected
  | @opens service shell opens =>
      obtain ⟨shell', found, waits⟩ := expected
      have none : shell.requesters = [] := by
        unfold Shell.start at opens
        split at opens
        · cases opens
        · split at opens
          · cases opens
          · cases opens
            rfl
      rw [shell?, List.lookup_append, Option.or_eq_some_iff] at found
      rcases found with old | ⟨-, new⟩
      · exact ⟨shell', old, waits⟩
      · rw [List.lookup_cons] at new
        split at new
        · cases new
          rw [none] at waits
          cases waits
        · cases new
  | @closes service number shell admits found =>
      have closed : service.Shrinks (service.withShell number shell.close) :=
        .ofWithShell found (List.Subset.refl _) (Nat.le_refl _)
      exact (closed.trans (.ofShells rfl)).expects ticket expected
  | forgets shut => exact (Shrinks.ofShells rfl).expects ticket expected
  | followed _ _ ih ih' =>
      refine ih (fun number job mem => nothing number job (List.mem_append_left _ mem)) ?_
      exact ih' (fun number job mem => nothing number job (List.mem_append_right _ mem)) expected

theorem leave_keeps (service : Service) (ticket : Ticket) :
    Keeps [ticket] service (service.leave ticket) [] := by
  intro other expected
  refine .inr ⟨?_, (service.leave_shrinks ticket).expects other expected⟩
  intro mine
  obtain ⟨shell', found', waits⟩ := expected
  rw [List.mem_singleton.mp mine] at found' waits
  unfold leave at found'
  split at found'
  · next missing =>
      rw [missing] at found'
      cases found'
  · next shell found =>
      rw [service.shell?_withShell found, if_pos rfl] at found'
      cases found'
      simp [Shell.leave] at waits

section Functions

variable (service : Service) (now : Nat)

theorem collect_keeps (ticket : Ticket) :
    Keeps [ticket] service (service.collect ticket).1 (service.collect ticket).2.rest := by
  unfold collect
  split
  · exact service.leave_keeps ticket
  · exact .still (fun _ expected => expected) [ticket]

theorem submit_keeps (request : Request) :
    Keeps [] service (service.submit request).1 (service.submit request).2.toOption.toList := by
  unfold submit
  split
  · exact .still (fun _ expected => expected) []
  · next number admits =>
      split
      · exact .still (fun _ expected => expected) []
      · next shell found =>
          simp only [freshNumber]
          split
          · next shell' answer =>
              -- The new requester is the one who has submitted the request.
              obtain ⟨-, -, rfl⟩ := (shell.submit_eq_ok_iff shell' _).mp answer
              rintro ticket ⟨shell'', found', waits⟩
              change (service.withShell number _).shell? ticket.shell = some shell'' at found'
              rw [service.shell?_withShell found] at found'
              split at found'
              · next same =>
                  cases found'
                  rcases List.mem_append.mp waits with before | new
                  · exact .inr ⟨List.not_mem_nil, shell, same ▸ found, before⟩
                  · refine .inl ?_
                    cases ticket
                    cases same
                    cases List.mem_singleton.mp new
                    exact List.mem_singleton_self _
              · exact .inr ⟨List.not_mem_nil, shell'', found', waits⟩
          · have refused : service.Shrinks (service.withShell number shell.refuse) :=
              .ofWithShell found (List.Subset.refl _) (Nat.le_refl _)
            exact .still (refused.trans (.ofShells rfl)).expects []
          · exact .still (Shrinks.ofShells rfl).expects []

theorem answerResult_keeps (codec : Codec) (result : FinalResult) :
    Keeps [] service (service.answerResult codec result).1
      ((service.answerResult codec result).2.rest.flatMap ExchangePhase.tickets) := by
  rw [answerResult_response]
  unfold answerResult
  cases codec.encodeResult result <;> exact .still (Shrinks.ofShells rfl).expects []

theorem awaitResult_keeps (codec : Codec) (ticket : Ticket) (deadline : Nat) :
    Keeps [ticket] service (service.awaitResult now codec ticket deadline).1
      ((service.awaitResult now codec ticket deadline).2.rest.flatMap ExchangePhase.tickets) := by
  have collected := service.collect_keeps ticket
  unfold awaitResult
  generalize service.collect ticket = run at collected ⊢
  obtain ⟨service', progress⟩ := run
  cases progress with
  | done result => exact collected.trans (service'.answerResult_keeps codec result)
  | waiting ticket' =>
      simp only
      split
      · refine collected.trans ((service'.leave_keeps ticket').trans ?_)
        exact .still (Shrinks.ofShells rfl).expects []
      · exact collected

theorem answerBody_keeps (codec : Codec) (options : ServerOptions) (body : ByteArray) :
    Keeps [] service (service.answerBody now codec options body).1
      ((service.answerBody now codec options body).2.rest.flatMap ExchangePhase.tickets) := by
  simp only [answerBody, freshNumber]
  split
  · exact .still (Shrinks.ofShells rfl).expects []
  · next request decoded =>
      have submitted : Keeps [] service _ _ := .trans
        (.still (Shrinks.ofShells rfl).expects [])
        (submit_keeps { service with nextNumber := service.nextNumber + 1 } request)
      generalize submit { service with nextNumber := service.nextNumber + 1 } request = run
        at submitted ⊢
      obtain ⟨service', answer⟩ := run
      cases answer with
      | error fault => exact submitted
      | ok ticket => exact submitted.trans (service'.awaitResult_keeps now codec ticket _)

theorem afterReload_keeps (run : PolicyCache × Journal × Progress RefreshOutcome FetchWait) :
    Keeps [] service (service.afterReload run).1
      ((service.afterReload run).2.rest.flatMap ExchangePhase.tickets) := by
  obtain ⟨cache, journal, progress⟩ := run
  cases progress <;> exact .still (Shrinks.ofShells rfl).expects []

theorem answer_keeps (codec : Codec) (options : ServerOptions) (metrics : Bool)
    (listener : Listener) (request : HttpRequest) (phase : ExchangePhase) :
    Keeps phase.tickets service
      (service.answer now codec options metrics listener request phase).1
      ((service.answer now codec options metrics listener request phase).2.rest.flatMap
        ExchangePhase.tickets) := by
  have nothing : Keeps [] service service [] := .still (fun _ expected => expected) []
  cases phase with
  | fresh =>
      simp only [answer]
      split
      · simp only [answerAuthorization]
        split
        · exact .still (Shrinks.ofShells rfl).expects []
        · split
          · exact .still (Shrinks.ofShells rfl).expects []
          · split
            · exact service.answerBody_keeps now codec options request.body
            · exact nothing
      · exact nothing
      · exact nothing
      · exact service.afterReload_keeps _
      · exact service.afterReload_keeps _
      · exact nothing
      · exact nothing
      · exact nothing
  | reading deadline =>
      simp only [answer]
      split
      · exact .still (Shrinks.ofShells rfl).expects []
      · exact nothing
  | authorizing ticket deadline => exact service.awaitResult_keeps now codec ticket deadline
  | reloading wait => exact service.afterReload_keeps _

end Functions

end Service

namespace Activity

variable (service : Service) (surroundings : Surroundings) (now : Nat)

theorem awaitTicket_keeps (giveUp : Option Nat) (request : Request) (ticket : Ticket) :
    Keeps [ticket] service (awaitTicket service now giveUp request ticket).1
      ((awaitTicket service now giveUp request ticket).2.rest.flatMap tickets) := by
  have collected := service.collect_keeps ticket
  unfold awaitTicket
  generalize service.collect ticket = run at collected ⊢
  obtain ⟨service', progress⟩ := run
  cases progress with
  | done result => exact collected
  | waiting ticket' =>
      simp only
      split
      · exact collected.trans (service'.leave_keeps ticket')
      · exact collected

/-- What holds no tickets and asks nothing adds no requesters. -/
theorem keeps_of_calm (activity : Activity) (other : activity.isLooking = false)
    (asksNothing : ∀ request, ¬ activity.asks surroundings.codec request)
    (none : activity.tickets = []) (held : List Ticket) :
    Keeps activity.tickets service (activity.part service surroundings now).1 held := by
  obtain ⟨deeds, does⟩ := activity.part_does service surroundings now other
  intro ticket expected
  refine .inr ⟨none ▸ List.not_mem_nil, does.does.expects ?_ ticket expected⟩
  intro number job accepted
  exact asksNothing job.request (does.asks number job accepted)

theorem part_keeps (activity : Activity) (other : activity.isLooking = false) :
    Keeps activity.tickets service (activity.part service surroundings now).1
      ((activity.part service surroundings now).2.rest.flatMap tickets) := by
  cases activity with
  | worker id phase => cases other
  | evaluating request waited => cases other
  | authorizing giveUp request ticket =>
      cases ticket with
      | some ticket => exact awaitTicket_keeps service now giveUp request ticket
      | none =>
          have submitted := service.submit_keeps request
          simp only [part, run]
          generalize service.submit request = run at submitted ⊢
          obtain ⟨service', answer⟩ := run
          cases answer with
          | error fault => exact submitted
          | ok ticket =>
              exact submitted.trans (awaitTicket_keeps service' now giveUp request ticket)
  | answering listener request phase =>
      have answered := service.answer_keeps now surroundings.codec surroundings.server
        surroundings.metrics listener request phase
      simp only [part, run, Progress.rest_map, List.flatMap_map]
      exact answered
  | _ =>
      refine keeps_of_calm service surroundings now _ rfl ?_ rfl _
      exact fun _ asks => asks

theorem dropFrom_keeps (activity : Activity) :
    Keeps activity.tickets service (activity.dropFrom service) [] := by
  unfold dropFrom
  split
  · next fetching =>
      have none : activity.tickets = [] := by
        unfold isFetching at fetching
        split at fetching
        case h_6 => cases fetching
        all_goals rfl
      rw [none]
      exact .still (Service.Shrinks.ofShells rfl).expects []
  · cases activity with
    | authorizing giveUp request ticket =>
        cases ticket with
        | none => exact .still (fun _ expected => expected) []
        | some ticket => exact service.leave_keeps ticket
    | answering listener request phase =>
        cases phase with
        | authorizing ticket deadline => exact service.leave_keeps ticket
        | _ => exact .still (fun _ expected => expected) []
    | _ => exact .still (fun _ expected => expected) []

end Activity

/-! ## Workers -/

theorem WorkerTurn.shrinks {now : Nat} {id : WorkerId} {phase : WorkerPhase}
    {service after : Service} {deeds : List Deed} {progress : Progress Unit WorkerPhase}
    (turn : WorkerTurn now id phase service deeds after progress) : service.Shrinks after := by
  have took {service : Service} {shell shell' : Shell} {job : Job}
      (found : service.shell? id.shell = some shell)
      (first : shell.take id.worker = some (job, shell')) :
      service.Shrinks (service.withShell id.shell shell') := by
    obtain ⟨idle, queue, -, -, rfl⟩ := (shell.take_eq_some_iff shell' id.worker job).mp first
    exact .ofWithShell found (List.Subset.refl _) (Nat.le_refl _)
  have updated {service : Service} {job : Job} {result : FinalResult} :
      service.Shrinks (service.updateShell id.shell fun shell =>
        (shell.finish id.worker job result).arrive id.worker) :=
    .ofUpdateShell (fun _ => List.Subset.refl _) (fun _ => Nat.le_refl _)
  induction turn with
  | @arrives service after deeds progress rest ih =>
      have arrived : service.Shrinks (service.updateShell id.shell fun shell =>
          shell.arrive id.worker) :=
        .ofUpdateShell (fun _ => List.Subset.refl _) (fun _ => Nat.le_refl _)
      exact arrived.trans ih
  | stands => exact .ofShells rfl
  | lost missing => exact .ofShells rfl
  | ends found first done => exact .ofWithShell found (List.Subset.refl _) (Nat.sub_le _ 1)
  | begins found first waits =>
      exact (took found first).trans (.ofShells (Look.evaluatesTo waits).shells)
  | serves found first done rest ih =>
      have looked := (took found first).trans (.ofShells (Look.evaluatesTo done).shells)
      exact looked.trans (updated.trans ih)
  | resumes waits => exact .ofShells (Look.evaluatesTo waits).shells
  | finishes done rest ih =>
      exact .trans (.ofShells (Look.evaluatesTo done).shells) (updated.trans ih)

/-! ## Whole runs -/

namespace World

/-- Whoever is expected holds the ticket. -/
def Attended (world : World) : Prop :=
  ∀ ticket, world.service.Expects ticket → ∃ activity ∈ world.tasks, ticket ∈ activity.tickets

variable {world next : World} {happening : Happening}

theorem Attended.joined (attended : world.Attended) {after : Service} (more : List Activity)
    (fewer : ∀ ticket, after.Expects ticket → world.service.Expects ticket) (ticket : Ticket)
    (expected : after.Expects ticket) :
    ∃ activity ∈ world.tasks ++ more, ticket ∈ activity.tickets := by
  obtain ⟨activity, mem, held⟩ := attended ticket (fewer ticket expected)
  exact ⟨activity, List.mem_append_left _ mem, held⟩

theorem Attended.turned (attended : world.Attended) {left right : List Activity}
    {activity : Activity} (after : Service) (rest : List Activity)
    (split : world.tasks = left ++ activity :: right)
    (keeps : Keeps activity.tickets world.service after (rest.flatMap Activity.tickets))
    (ticket : Ticket) (expected : after.Expects ticket) :
    ∃ activity ∈ left ++ rest ++ right, ticket ∈ activity.tickets := by
  simp only [List.mem_append]
  rcases keeps ticket expected with mine | ⟨notMine, before⟩
  · obtain ⟨own, mem, held⟩ := List.mem_flatMap.mp mine
    exact ⟨own, .inl (.inr mem), held⟩
  · obtain ⟨other, mem, held⟩ := attended ticket before
    rw [split, List.mem_append, List.mem_cons] at mem
    rcases mem with early | rfl | late
    · exact ⟨other, .inl (.inl early), held⟩
    · exact absurd held notMine
    · exact ⟨other, .inr late, held⟩

theorem Step.attended (step : Step world happening next) (attended : world.Attended) :
    next.Attended := by
  cases step with
  | time later forward => exact attended
  | source source | registry registry =>
      intro ticket expected
      exact attended ticket ((Service.Shrinks.ofShells rfl).expects ticket expected)
  | loopStarts service started =>
      have same := (world.service.startRefresh_governs service started).shells
      intro ticket expected
      exact attended ticket ((Service.Shrinks.ofShells same).expects ticket expected)
  | joins => exact attended.joined _ (Service.Shrinks.ofShells rfl).expects
  | begins activity fresh => exact attended.joined _ fun _ expected => expected
  | turns left right activity service progress split ran =>
      refine attended.turned service progress.rest split ?_
      cases looking : activity.isLooking with
      | false =>
          have keeps := activity.part_keeps world.service world.surroundings world.now looking
          rw [ran] at keeps
          exact keeps
      | true =>
          cases activity with
          | worker id phase =>
              obtain ⟨deeds, turn⟩ := world.service.runWorker_turn world.now id phase
              cases ran
              rw [Activity.flatMap_tickets_map _ _ (fun _ => rfl)]
              exact .still turn.shrinks.expects []
          | evaluating request waited =>
              rw [Activity.part_evaluating] at ran
              cases ran
              rw [Look.progress, Activity.flatMap_tickets_map _ _ (fun _ => rfl)]
              have same := (Look.mk world.service world.now request waited).evaluates.shells
              exact .still (Service.Shrinks.ofShells same).expects []
          | _ => cases looking
  | overlooks left right number phase phase' cache journal split ran =>
      have kept := attended.turned (world.service.withCache cache journal)
        [.loop number phase'] split (.still (Service.Shrinks.ofShells rfl).expects [])
      rw [List.append_assoc] at kept
      exact kept
  | drops left right activity split droppable =>
      have kept := attended.turned _ [] split (activity.dropFrom_keeps world.service)
      rw [List.append_nil] at kept
      exact kept

theorem Run.attended {options : ServiceOptions} {beginning : World} {happenings : List Happening}
    (run : Run beginning happenings world) (new : beginning.IsNew options) : world.Attended := by
  induction run with
  | start =>
      obtain ⟨source, engine, points, handlers, startedAt, surroundings, rfl⟩ := new
      rintro ticket ⟨shell, found, -⟩
      cases found
  | step _ step ih => exact step.attended ih

end World

end DecisionPoint
