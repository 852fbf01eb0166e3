import DecisionPoint.Proofs.Admission.Awaiting
import DecisionPoint.Proofs.Evaluation.Limits
import DecisionPoint.Proofs.Schedule.Closing

/-!
# What was accepted is finished

Wherever a shutdown waits for its shell, the shell drains if only time passes and what goes on takes
its turns: each of its workers and each of those who wait for a result can be brought on.
-/

set_option autoImplicit false

namespace DecisionPoint

/-- Who holds a ticket that has its result ends with the next turn. -/
theorem Activity.part_answered {activity : Activity} {service : Service}
    (surroundings : Surroundings) (now : Nat) {ticket : Ticket} {result : FinalResult}
    (held : ticket ∈ activity.tickets) (answered : service.answer? ticket = some result) :
    activity.steers = false ∧
      ∃ after answer, activity.part service surroundings now = (after, .done answer) := by
  cases activity with
  | authorizing giveUp request ticket' =>
      cases ticket' with
      | none => cases held
      | some ticket' =>
          cases List.mem_singleton.mp held
          refine ⟨rfl, service.leave ticket, .authorized (.ok result), ?_⟩
          simp only [part, run, awaitTicket, Service.collect, answered]
  | answering listener request phase =>
      cases phase with
      | authorizing ticket' deadline =>
          cases List.mem_singleton.mp held
          refine ⟨rfl, ((service.leave ticket).answerResult surroundings.codec result).1,
            .responded ((Service.resultResponse surroundings.codec result).sentTo request), ?_⟩
          simp only [part, run, Service.answer, Service.awaitResult, Service.collect, answered,
            Service.answerResult_response]
          rfl
      | _ => cases held
  | _ => cases held

namespace World

def tickets (world : World) : List Ticket := world.tasks.flatMap Activity.tickets

/-- A shell is nearer to its end: its workers have done something, or a requester has gone away. -/
def Nearer (number : Nat) (world next : World) (later : List Deed) : Prop :=
  next.tickets.length < labour (dealingsAt number later) + world.tickets.length

section Turns

variable {world : World} {stop : StopPhase} {left right : List Activity} {id : WorkerId}
  {phase : WorkerPhase} {deeds : List Deed} {after : Service} {progress : Progress Unit WorkerPhase}

def afterWorker (world : World) (left right : List Activity) (id : WorkerId) (after : Service)
    (progress : Progress Unit WorkerPhase) : World :=
  { world with service := after, tasks := left ++ progress.rest.map (.worker id) ++ right }

theorem tickets_afterWorker (split : world.tasks = left ++ .worker id phase :: right) :
    (world.afterWorker left right id after progress).tickets = world.tickets := by
  have none : (progress.rest.map (.worker id)).flatMap Activity.tickets = [] := by
    rw [List.flatMap_eq_nil_iff]
    intro activity mem
    obtain ⟨phase', -, rfl⟩ := List.mem_map.mp mem
    rfl
  simp [tickets, afterWorker, split, none, Activity.tickets]

theorem Closing.worker (split : world.tasks = left ++ .worker id phase :: right)
    (turn : WorkerTurn world.now id phase world.service deeds after progress)
    (ran : world.service.runWorker world.now id phase = (after, progress)) :
    Closing Happening.isOwn world stop (world.afterWorker left right id after progress)
      (.waiting stop) deeds := by
  have part : Activity.part world.service world.surroundings world.now (.worker id phase) =
      (after, progress.map (fun _ => .ended) (.worker id)) := by
    simp only [Activity.part, Activity.run, ran]
  have step := Step.turns left right (.worker id phase) _ _ split part
  rw [Progress.rest_map] at step
  exact Closing.here.meanwhile rfl step (.worker turn)

/-- A turn in which a worker does something brings its shell nearer to its end. -/
theorem Nearer.ofWorker (split : world.tasks = left ++ .worker id phase :: right)
    {dealing : Dealing} {rest : List Deed} (works : 0 < labour [dealing]) :
    Nearer id.shell world (world.afterWorker left right id after progress)
      (.dealt id.shell dealing :: rest) := by
  have done : labour (dealingsAt id.shell (.dealt id.shell dealing :: rest)) =
      labour [dealing] + labour (dealingsAt id.shell rest) := by
    rw [← labour_append, ← dealingsAt_dealt id.shell dealing, ← dealingsAt_append]
    rfl
  rw [Nearer, tickets_afterWorker split, done]
  omega

/-- Whoever works can be brought to the end of its evaluation. -/
theorem finishes {timeout : Option Span} {earliest : Nat}
    {enriching : Progress (Except Verdict Request) PointWait}
    (completes : Pipeline.Completes timeout earliest enriching) {job : Job}
    {evaluation : Evaluation} (waits : enriching = .waiting evaluation.wait)
    (split : world.tasks = left ++ .worker id (.evaluating job evaluation) :: right)
    (limit : world.service.pipeline.timeout = timeout) (early : world.now ≤ earliest)
    (stop : StopPhase) :
    ∃ next later, Closing Happening.isOwn world stop next (.waiting stop) later ∧
      Nearer id.shell world next later := by
  induction completes generalizing world evaluation with
  | done earliest ended => cases waits
  | waiting earliest wait now forward completes ih =>
      cases waits
      -- The clock moves to the time of the next look.
      obtain ⟨ready, step, rfl, same⟩ : ∃ ready, Step world .time ready ∧ ready.now = now ∧
          ready = { world with now := now } :=
        ⟨_, .time now (Nat.le_trans early forward), rfl, rfl⟩
      have waited : Closing Happening.isOwn world stop ready (.waiting stop) [] :=
        Closing.here.meanwhile rfl step (.rests rfl (same ▸ .refl _))
      have split' : ready.tasks = left ++ .worker id (.evaluating job evaluation) :: right :=
        same ▸ split
      have limit' : ready.service.pipeline.timeout = timeout := same ▸ limit
      have tickets' : ready.tickets = world.tickets := same ▸ rfl
      obtain ⟨deeds, turn⟩ :=
        ready.service.runWorker_turn ready.now id (.evaluating job evaluation)
      generalize ran : ready.service.runWorker ready.now id (.evaluating job evaluation) = run
        at turn
      obtain ⟨after, progress⟩ := run
      have worked := waited.trans (Closing.worker split' turn ran)
      cases turn with
      | @finishes _ middle _ _ _ result deeds _ done rest =>
          refine ⟨_, _, worked, ?_⟩
          have nearer : Nearer id.shell ready (ready.afterWorker left right id after progress)
              (.dealt id.shell (.finished id.worker job result) :: deeds) :=
            .ofWorker split' Nat.one_pos
          rw [Nearer, tickets'] at nearer
          exact nearer
      | @resumes _ _ _ _ evaluation' looked =>
          have same' := ready.service.wait_of_proceed ready.now evaluation.occasion
            evaluation.policy _ evaluation' (congrArg Prod.snd looked)
          rw [limit'] at same'
          have kept : after.pipeline.timeout = timeout := by
            rw [(Look.evaluatesTo looked).pipeline]
            exact limit'
          have split'' : (ready.afterWorker left right id after
              (.waiting (.evaluating job evaluation'))).tasks =
                left ++ .worker id (.evaluating job evaluation') :: right := by
            simp [afterWorker, Progress.rest]
          obtain ⟨next, later, closing, nearer⟩ := ih same' split'' kept (Nat.le_refl _)
          refine ⟨next, _, worked.trans closing, ?_⟩
          rw [Nearer, tickets_afterWorker split', tickets'] at nearer
          exact nearer

theorem nearer_of_turn {dealing : Dealing} {rest : List Deed}
    (split : world.tasks = left ++ .worker id phase :: right)
    (turn : WorkerTurn world.now id phase world.service (.dealt id.shell dealing :: rest) after
      progress)
    (ran : world.service.runWorker world.now id phase = (after, progress))
    (works : 0 < labour [dealing]) (stop : StopPhase) :
    ∃ next later, Closing Happening.isOwn world stop next (.waiting stop) later ∧
      Nearer id.shell world next later :=
  ⟨_, _, Closing.worker split turn ran, Nearer.ofWorker split works⟩

end Turns

/-! ## Whole shells -/

section Shells

variable {beginning world : World} {options : ServiceOptions} {happenings : List Happening}
  {number : Nat} {deeds : List Deed} {shell : Shell}

theorem nearer_of_pending (attended : world.Attended) (none : world.service.spawned = [])
    (found : world.service.shell? number = some shell)
    (pending : shell.Pending (posts number world.activities))
    (limited : ∀ id phase, .worker id phase ∈ world.tasks →
      phase.Limited world.service.pipeline.timeout) (stop : StopPhase) :
    ∃ next later, Closing Happening.isOwn world stop next (.waiting stop) later ∧
      Nearer number world next later := by
  have here : world.activities = world.tasks := by simp [activities, none]
  -- Whatever is pending, there is a turn that does it: a worker's own, or that of a requester.
  rw [here] at pending
  cases pending with
  | @comes worker coming =>
      obtain ⟨phase, mem, post⟩ := mem_posts.mp coming
      obtain ⟨left, right, split⟩ := List.append_of_mem mem
      cases phase with
      | fresh =>
          obtain ⟨deeds, turn⟩ := world.service.runWorker_turn world.now ⟨number, worker⟩ .fresh
          generalize ran : world.service.runWorker world.now ⟨number, worker⟩ .fresh = run at turn
          cases turn with
          | arrives rest => exact nearer_of_turn split (.arrives rest) ran Nat.one_pos stop
      | _ => cases post
  | @finishes worker job busy =>
      obtain ⟨phase, mem, post⟩ := mem_posts.mp busy
      obtain ⟨left, right, split⟩ := List.append_of_mem mem
      cases phase with
      | evaluating job' evaluation =>
          have waits := limited _ _ mem
          exact finishes (waits.completes world.now) rfl split rfl (Nat.le_refl _) stop
      | _ => cases post
  | @takes worker job after stands first =>
      obtain ⟨phase, mem, post⟩ := mem_posts.mp stands
      obtain ⟨left, right, split⟩ := List.append_of_mem mem
      cases phase with
      | idle =>
          obtain ⟨rest, turn⟩ := world.service.serve_takes world.now ⟨number, worker⟩
            (world.service.queueLength number) found first
          exact nearer_of_turn split turn rfl Nat.one_pos stop
      | _ => cases post
  | @ends worker stands first done =>
      obtain ⟨phase, mem, post⟩ := mem_posts.mp stands
      obtain ⟨left, right, split⟩ := List.append_of_mem mem
      cases phase with
      | idle =>
          have turn := world.service.serve_ends world.now ⟨number, worker⟩
            (world.service.queueLength number) found first done
          exact nearer_of_turn split turn rfl Nat.one_pos stop
      | _ => cases post
  | @leaves requester result waits answered =>
      obtain ⟨activity, mem, held⟩ := attended ⟨number, requester⟩ ⟨shell, found, waits⟩
      obtain ⟨left, right, split⟩ := List.append_of_mem mem
      have collected : world.service.answer? ⟨number, requester⟩ = some result := by
        simp [Service.answer?, found, answered]
      obtain ⟨calm, after, answer, ran⟩ :=
        Activity.part_answered world.surroundings world.now held collected
      have step := Step.turns left right activity after (.done answer) split ran
      obtain ⟨deeds, acts⟩ := step.acts
      have own : (Happening.turn activity (.done answer)).isOwn = true := decide_eq_true calm
      refine ⟨_, deeds, Closing.here.meanwhile own step acts, ?_⟩
      -- The ticket is gone with its holder.
      have some := List.length_pos_of_mem held
      simp only [Nearer, tickets, split, Progress.rest, List.flatMap_append, List.flatMap_cons,
        List.append_nil, List.length_append]
      omega

/-- As long as a worker is left at a closed shell, the shell can be brought nearer to its end. -/
theorem Ledger.nearer (ledger : Ledger beginning happenings world deeds)
    (new : beginning.IsNew options) (limited : beginning.service.pipeline.Limited)
    (closed : .closed ∈ dealingsAt number deeds)
    (left : world.service.hasDrained number = false) (stop : StopPhase) :
    ∃ next later, Closing Happening.isOwn world stop next (.waiting stop) later ∧
      Nearer number world next later := by
  -- Whatever was set going takes its place first.
  obtain ⟨joined, step, service, tickets'⟩ : ∃ joined, Step world .joined joined ∧
      joined.service = { world.service with spawned := [] } ∧ joined.tickets = world.tickets := by
    refine ⟨_, .joins, rfl, ?_⟩
    have none : (world.service.spawned.map Spawned.activity).flatMap Activity.tickets = [] := by
      rw [List.flatMap_eq_nil_iff]
      intro activity mem
      obtain ⟨spawned, -, rfl⟩ := List.mem_map.mp mem
      cases spawned <;> rfl
    simp [tickets, none]
  have acts : Acts world .joined [] joined.service := service ▸ .joins
  have ledger' := ledger.step step acts
  have pipeline := ledger'.pipeline
  rw [List.append_nil] at ledger'
  cases found : world.service.shell? number with
  | none => simp [Service.hasDrained, found] at left
  | some shell =>
      have found' : joined.service.shell? number = some shell := by
        rw [service]
        exact found
      have alive : shell.alive ≠ 0 := by simpa [Service.hasDrained, found] using left
      obtain ⟨life, crew⟩ := (ledger'.accounts new).shells number shell found'
      have shut : shell.isOpen = false := by
        by_contra isOpen
        exact life.isOpen.mp (Bool.not_eq_false _ ▸ isOpen) closed
      obtain ⟨source, engine, points, handlers, startedAt, surroundings, rfl⟩ := new
      obtain ⟨next, later, closing, nearer⟩ := nearer_of_pending
        (ledger'.run.attended ⟨_, _, _, _, _, _, rfl⟩) (by rw [service]) found'
        (life.pending crew shut alive)
        (fun id phase mem => pipeline ▸ ledger'.limited limited rfl id phase mem) stop
      rw [Nearer, tickets'] at nearer
      exact ⟨next, later, (Closing.here.meanwhile rfl step acts).trans closing, nearer⟩

theorem Ledger.drains (ledger : Ledger beginning happenings world deeds)
    (new : beginning.IsNew options) (limited : beginning.service.pipeline.Limited)
    (closed : .closed ∈ dealingsAt number deeds) (stop : StopPhase) :
    ∃ next later, Closing Happening.isOwn world stop next (.waiting stop) later ∧
      next.service.hasDrained number = true := by
  generalize far : 2 * options.admission.maxRequests.toNat +
    2 * (jobsAccepted (dealingsAt number deeds)).length + world.tickets.length -
      labour (dealingsAt number deeds) = distance
  -- No new job comes in, so there is only so much to do, and only so many requesters wait.
  induction distance using Nat.strongRecOn generalizing world happenings deeds with
  | ind distance ih =>
      cases left : world.service.hasDrained number with
      | true => exact ⟨world, [], .here, left⟩
      | false =>
          obtain ⟨next, later, closing, nearer⟩ := ledger.nearer new limited closed left stop
          obtain ⟨more, ledger'⟩ := closing.ledger ledger
          have closed' : .closed ∈ dealingsAt number (deeds ++ later) := by
            rw [dealingsAt_append]
            exact List.mem_append_left _ closed
          have accounts := ledger'.accounts new
          cases found : next.service.shell? number with
          | none =>
              rw [(accounts.elsewhere number found).1] at closed'
              cases closed'
          | some shell =>
              obtain ⟨life, -⟩ := accounts.shells number shell found
              have bound := life.labour_le
              rw [dealingsAt_append] at life
              have accepted : jobsAccepted (dealingsAt number (deeds ++ later)) =
                  jobsAccepted (dealingsAt number deeds) := by
                rw [dealingsAt_append, jobsAccepted, List.filterMap_append]
                exact (congrArg _ (life.accepted_of_closed closed)).trans (List.append_nil _)
              have more := labour_append (dealingsAt number deeds) (dealingsAt number later)
              rw [← dealingsAt_append] at more
              rw [accepted] at bound
              unfold Nearer at nearer
              obtain ⟨last, rest, closing', drained⟩ :=
                ih _ (by rw [← far, accepted]; omega) ledger' closed' rfl
              exact ⟨last, _, closing.trans closing', drained⟩

end Shells

end World

end DecisionPoint
