import DecisionPoint.Proofs.Admission.Balance
import DecisionPoint.Proofs.Admission.Tickets
import DecisionPoint.Proofs.Evaluation.Pinning

/-!
# Conservation of requests

In every run each submission is answered once, and every accepted request waits, is at work or has
finished.  Whoever still waits collects the result of its own request.
-/

set_option autoImplicit false

namespace DecisionPoint

def Deed.isWorkers : Deed → Bool
  | dealt _ (.arrived _) | dealt _ (.took _ _) | dealt _ (.finished _ _ _)
  | dealt _ (.dismissed _) | looked _ => true
  | _ => false

def Deed.isBusy : Deed → Bool
  | dealt _ dealing => dealing.isBusy
  | _ => false

def Deed.took? : Deed → Option Job
  | dealt _ dealing => dealing.took?
  | _ => none

def Deed.begun? : Deed → Option Request
  | looked ⟨_, _, request, none⟩ => some request
  | _ => none

def jobsBegun (deeds : List Deed) : List Job := deeds.filterMap Deed.took?

/-- The requests whose evaluations begin in some deeds, in order. -/
def evaluationsBegun (deeds : List Deed) : List Request := deeds.filterMap Deed.begun?

/-! ## Workers and others -/

theorem Service.Does.aside {governing : Bool} {before after : Service} {deeds : List Deed}
    (does : Service.Does governing before deeds after) :
    ∀ deed ∈ deeds, deed.isWorkers = false := by
  induction does with
  | followed _ _ ih ih' =>
      intro deed mem
      rcases List.mem_append.mp mem with first | second
      · exact ih deed first
      · exact ih' deed second
  | _ => simp [Deed.isWorkers]

section Turns

variable {now : Nat} {id : WorkerId} {phase : WorkerPhase} {service after : Service}
  {deeds : List Deed} {progress : Progress Unit WorkerPhase}

theorem WorkerTurn.begun (turn : WorkerTurn now id phase service deeds after progress) :
    evaluationsBegun deeds = (jobsBegun deeds).map Job.request := by
  induction turn with
  | arrives rest ih => exact ih
  | serves found took done rest ih => exact congrArg (_ :: ·) ih
  | finishes done rest ih => exact ih
  | _ => rfl

theorem WorkerTurn.finished (turn : WorkerTurn now id phase service deeds after progress)
    {number worker : Nat} {job : Job} {result : FinalResult}
    (finished : .dealt number (.finished worker job result) ∈ deeds) :
    ∃ look, .looked look ∈ deeds ∧ look.request = job.request ∧ look.run.2 = .done result := by
  induction turn with
  | arrives rest ih =>
      obtain ⟨look, looked, seen⟩ := ih (by simpa using finished)
      exact ⟨look, List.mem_cons_of_mem _ looked, seen⟩
  | stands => cases finished
  | lost missing => cases finished
  | ends found first done => simp at finished
  | begins found took waits => simp at finished
  | serves found took done rest ih =>
      simp only [List.mem_cons, reduceCtorEq, false_or, Deed.dealt.injEq, Dealing.finished.injEq]
        at finished
      rcases finished with here | later
      · simp at here
      · rcases later with ⟨-, -, rfl, rfl⟩ | later
        · exact ⟨_, List.mem_cons_of_mem _ List.mem_cons_self, rfl, by rw [done]⟩
        · obtain ⟨look, looked, seen⟩ := ih later
          exact ⟨look, by simp [looked], seen⟩
  | resumes waits => simp at finished
  | finishes done rest ih =>
      simp only [List.mem_cons, reduceCtorEq, false_or, Deed.dealt.injEq, Dealing.finished.injEq]
        at finished
      rcases finished with ⟨-, -, rfl, rfl⟩ | later
      · exact ⟨_, List.mem_cons_self, rfl, by rw [done]⟩
      · obtain ⟨look, looked, seen⟩ := ih later
        exact ⟨look, by simp [looked], seen⟩

end Turns

theorem Journal.rejected_rejections (journal : Journal) :
    journal.rejected.rejections = journal.rejections + 1 := by
  cases kept : journal.evaluationStatus <;>
    simp [rejected, rejections, counted, ServiceStatus.recordRejection, kept]

theorem Service.Does.rejections {governing : Bool} {before after : Service} {deeds : List Deed}
    (does : Service.Does governing before deeds after) :
    after.journal.rejections = before.journal.rejections + deeds.countP Deed.isBusy := by
  induction does with
  | rests rests => exact rests.policy.rejections
  | governs governs => exact governs.rejections
  | isBusy admits found answer => exact Journal.rejected_rejections _
  | followed _ _ ih ih' => rw [ih', ih, List.countP_append, Nat.add_assoc]
  | _ => rfl

theorem WorkerTurn.notBusy {now : Nat} {id : WorkerId} {phase : WorkerPhase}
    {service after : Service} {deeds : List Deed} {progress : Progress Unit WorkerPhase}
    (turn : WorkerTurn now id phase service deeds after progress) :
    deeds.countP Deed.isBusy = 0 := by
  induction turn with
  | arrives rest ih | serves found took done rest ih | finishes done rest ih => exact ih
  | _ => rfl

namespace World

variable {world next : World} {happening : Happening} {deeds later : List Deed}
  {after : Service}

theorem Acts.rejections (acts : Acts world happening deeds after) :
    after.journal.rejections = world.service.journal.rejections + deeds.countP Deed.isBusy := by
  cases acts with
  | rests quiet rests => exact rests.policy.rejections
  | joins => rfl
  | loopStarts governs => exact governs.rejections
  | worker turn => rw [turn.notBusy, turn.attends.rejections, Nat.add_zero]
  | evaluates look service now => exact service ▸ look.evaluates.rejections
  | does other does => exact does.does.rejections
  | drops does => exact does.does.rejections

/-- Evaluations begin with jobs, but for those that a caller begins by itself. -/
theorem Acts.begun (acts : Acts world happening deeds after)
    (other : ∀ request waited progress, happening ≠ .turn (.evaluating request waited) progress) :
    evaluationsBegun deeds = (jobsBegun deeds).map Job.request := by
  -- Without workers nothing begins at all, and both sides are empty.
  have aside (none : ∀ deed ∈ deeds, deed.isWorkers = false) :
      evaluationsBegun deeds = (jobsBegun deeds).map Job.request := by
    have begun : evaluationsBegun deeds = [] := by
      rw [evaluationsBegun, List.filterMap_eq_nil_iff]
      intro deed mem
      have calm := none deed mem
      unfold Deed.begun?
      split
      · cases calm
      · rfl
    have taken : jobsBegun deeds = [] := by
      rw [jobsBegun, List.filterMap_eq_nil_iff]
      intro deed mem
      have calm := none deed mem
      cases deed with
      | dealt number dealing =>
          cases dealing with
          | took worker job => cases calm
          | _ => rfl
      | _ => rfl
    rw [begun, taken, List.map_nil]
  cases acts with
  | rests quiet rests => rfl
  | joins => rfl
  | loopStarts governs => rfl
  | worker turn => exact turn.begun
  | evaluates look service now => exact absurd rfl (other _ _ _)
  | does _ does => exact aside does.does.aside
  | drops does => exact aside does.does.aside

theorem Acts.finished (acts : Acts world happening deeds after) {number worker : Nat} {job : Job}
    {result : FinalResult} (finished : .dealt number (.finished worker job result) ∈ deeds) :
    ∃ look, .looked look ∈ deeds ∧ look.request = job.request ∧ look.run.2 = .done result := by
  cases acts with
  | rests quiet rests => cases finished
  | joins => cases finished
  | loopStarts governs => cases finished
  | worker turn => exact turn.finished finished
  | evaluates look service now => simp at finished
  | does _ does => cases does.does.aside _ finished
  | drops does => cases does.does.aside _ finished

theorem Ledger.rejections {beginning : World} {happenings : List Happening}
    (ledger : Ledger beginning happenings world deeds) :
    world.service.journal.rejections =
      beginning.service.journal.rejections + deeds.countP Deed.isBusy := by
  induction ledger with
  | start => rfl
  | step _ _ acts ih => rw [acts.rejections, ih, List.countP_append, Nat.add_assoc]

theorem Ledger.finished {beginning : World} {happenings : List Happening}
    (ledger : Ledger beginning happenings world deeds)
    (nothing : ∀ activity ∈ beginning.tasks, activity.evaluation? = none) {number worker : Nat}
    {job : Job} {result : FinalResult}
    (finished : .dealt number (.finished worker job result) ∈ deeds) :
    ∃ policy past middle look, Pursuit beginning job.request policy past middle look ∧
      look.run.2 = .done result := by
  induction ledger with
  | start => cases finished
  | step earlier step acts ih =>
      rcases List.mem_append.mp finished with before | now
      · exact ih before
      · obtain ⟨look, looked, asked, seen⟩ := acts.finished now
        obtain ⟨policy, pursuit⟩ := earlier.run.pursues nothing step acts look looked
        exact ⟨policy, _, _, look, asked ▸ pursuit, seen⟩

/-! ## Submissions and requesters -/

/-- How a service answers those who submit requests or wait for results. -/
structure Admits (options : AdmissionOptions) (deeds : List Deed) (world : World) : Prop where
  shut : world.service.admission = none →
    ∀ request, (world.service.submit request).2 = .error .closed
  isOpen : ∀ number, world.service.admission = some number →
    ∃ shell, world.service.shell? number = some shell ∧ shell.isOpen = true
  busy : ∀ number shell, world.service.admission = some number →
    world.service.shell? number = some shell →
      ∀ request, (world.service.submit request).2 = .error .busy ↔
        ∃ limit, options.queueCapacity = some limit ∧ shell.queue.length = limit.toNat
  accepts : ∀ number shell, world.service.admission = some number →
    world.service.shell? number = some shell →
      ∀ request, (world.service.submit request).2 ≠ .error .busy →
        (world.service.submit request).2 = .ok ⟨number, world.service.nextNumber⟩
  /-- The status has counted the refusals for want of room. -/
  rejections : world.service.journal.rejections = deeds.countP Deed.isBusy
  requesters : ∀ activity ∈ world.tasks, ∀ ticket ∈ activity.tickets, ∃ request,
    activity.asks world.surroundings.codec request ∧
      ⟨ticket.number, request⟩ ∈ jobsAccepted (dealingsAt ticket.shell deeds) ∧
      ∀ result, (world.service.collect ticket).2 = .done result ↔
        (⟨ticket.number, request⟩, result) ∈ jobsFinished (dealingsAt ticket.shell deeds)
  distinct : (world.tasks.flatMap Activity.tickets).Nodup

theorem submit_answer (service : Service) {number : Nat} {shell : Shell}
    (admits : service.admission = some number) (found : service.shell? number = some shell)
    (isOpen : shell.isOpen = true) (request : Request) :
    (service.submit request).2 =
      if shell.isFull then .error .busy else .ok ⟨number, service.nextNumber⟩ := by
  simp only [Service.submit, admits, found, Service.freshNumber, Shell.submit, isOpen]
  cases full : shell.isFull <;> simp

theorem collect_done_iff (service : Service) (ticket : Ticket) (result : FinalResult) :
    (service.collect ticket).2 = .done result ↔ service.answer? ticket = some result := by
  unfold Service.collect
  cases service.answer? ticket <;> simp

theorem Ledger.admits {beginning : World} {happenings : List Happening}
    {options : ServiceOptions} (ledger : Ledger beginning happenings world deeds)
    (new : beginning.IsNew options) : world.Admits options.admission deeds := by
  have accounts := ledger.accounts new
  have holders := ledger.holders new
  have answers {number : Nat} {shell : Shell} (admits : world.service.admission = some number)
      (found : world.service.shell? number = some shell) (request : Request) :
      (world.service.submit request).2 =
        if shell.isFull then .error .busy else .ok ⟨number, world.service.nextNumber⟩ := by
    obtain ⟨shell', found', isOpen⟩ := accounts.admits number admits
    rw [found] at found'
    cases found'
    exact submit_answer world.service admits found isOpen request
  refine ⟨?_, accounts.admits, ?_, ?_, ?_, ?_, holders.distinct⟩
  · intro shut request
    rw [Service.submit, shut]
  · intro number shell admits found request
    have queues := (accounts.shells number shell found).1.conserves.queues
    rw [answers admits found, ← queues.isFull_iff]
    cases shell.isFull <;> simp
  · intro number shell admits found request other
    rw [answers admits found] at other ⊢
    cases full : shell.isFull with
    | true => simp [full] at other
    | false => rfl
  · obtain ⟨source, engine, points, handlers, startedAt, surroundings, rfl⟩ := new
    have counted := ledger.rejections
    rw [counted]
    exact Nat.zero_add _
  · intro activity mem ticket held
    obtain ⟨request, accepted, asks⟩ := holders.asks activity mem ticket held
    have waits := holders.waits activity mem ticket held
    rw [← mem_dealingsAt] at accepted waits
    refine ⟨request, asks, List.mem_filterMap.mpr ⟨_, accepted, rfl⟩, ?_⟩
    intro result
    rw [collect_done_iff, Service.answer?]
    cases found : world.service.shell? ticket.shell with
    | none =>
        rw [(accounts.elsewhere ticket.shell found).1] at accepted
        cases accepted
    | some shell =>
        have life := (accounts.shells ticket.shell shell found).1
        exact life.answer?_eq_some_iff ⟨ticket.number, request⟩ accepted waits result

end World

/-! ## Whole runs -/

/-- In every run, each shell balances: every submission is answered once and as it is due, and what
was accepted waits, is at work or has finished, in the order of acceptance.  Evaluations begin with
the jobs that are taken, one for each, and their results go to those who asked for them. -/
theorem requests_are_conserved (options : ServiceOptions) (beginning world : World)
    (happenings : List Happening) (new : beginning.IsNew options)
    (run : World.Run beginning happenings world) :
    (∃ deeds, World.Ledger beginning happenings world deeds) ∧
      ∀ deeds, World.Ledger beginning happenings world deeds →
        world.Admits options.admission deeds ∧
        (∀ number shell, world.service.shell? number = some shell →
          (numbersSubmitted (dealingsAt number deeds)).length < UInt64.size →
            shell.Balances options.admission (dealingsAt number deeds)
              (posts number world.activities)) ∧
        (∀ number job result, (job, result) ∈ jobsFinished (dealingsAt number deeds) →
          ∃ policy past middle look,
            World.Pursuit beginning job.request policy past middle look ∧
              look.run.2 = .done result) ∧
        ∀ happening next later, World.Step world happening next →
          World.Acts world happening later next.service →
          (∀ request waited progress, happening ≠ .turn (.evaluating request waited) progress) →
            evaluationsBegun later = (jobsBegun later).map Job.request := by
  refine ⟨run.ledger, ?_⟩
  intro deeds ledger
  have accounts := ledger.accounts new
  refine ⟨ledger.admits new, ?_, ?_, fun _ _ _ _ acts other => acts.begun other⟩
  · intro number shell found few
    obtain ⟨life, crew⟩ := accounts.shells number shell found
    exact life.balances crew few
  · intro number job result finished
    obtain ⟨dealing, mem, here⟩ := List.mem_filterMap.mp finished
    cases dealing with
    | finished worker job' result' =>
        cases here
        rw [mem_dealingsAt] at mem
        obtain ⟨source, engine, points, handlers, startedAt, surroundings, rfl⟩ := new
        exact ledger.finished (by simp [World.start]) mem
    | _ => cases here

/-! ## One worker and one place to wait -/

namespace SampleAdmission

/-- An information point that takes three milliseconds. -/
def clock : Point := .ofScript "clock" (.pause 3 (.finish .succeeded))

def permitting : Engine := fun _ _ => .decided (.new .permit [] none)

def options : ServiceOptions := { ServiceOptions.default with admission := ⟨1, some 1⟩ }

def beginning : World :=
  .start (.new options (.always (.ok (.new "alpha" "1" .epoch))) permitting [clock] .empty .epoch)
    .default

def requester (id : String) : Activity := .authorizing none (.blank id) none

end SampleAdmission

open SampleAdmission in
/-- Of three requests the first is at work, the second waits, and the third is refused. -/
theorem third_request_finds_no_room :
    ∃ happenings world deeds shell, World.Run beginning happenings world ∧
      World.Ledger beginning happenings world deeds ∧ world.service.shell? 1 = some shell ∧
      shell.accepted = 2 ∧ shell.rejected = 1 ∧ shell.queue.length = 1 ∧
      world.Admits options.admission deeds ∧
      shell.Balances options.admission (dealingsAt 1 deeds) (posts 1 world.activities) := by
  have opened : World.Run beginning _ _ :=
    .step (.step (.step (.step .start (.begins (.starting .fresh) rfl))
      (.turns [] [] _ _ _ rfl rfl)) (.turns [] [] _ _ _ rfl rfl)) .joins
  have taken : World.Run beginning _ _ :=
    .step (.step (.step opened (.begins (requester "first") rfl)) (.turns [_, _] [] _ _ _ rfl rfl))
      (.turns [_] [_] _ _ _ rfl rfl)
  have waits : World.Run beginning _ _ :=
    .step (.step taken (.begins (requester "second") rfl)) (.turns [_, _, _] [] _ _ _ rfl rfl)
  have refused : World.Run beginning _ _ :=
    .step (.step waits (.begins (requester "third") rfl)) (.turns [_, _, _, _] [] _ _ _ rfl rfl)
  have new : beginning.IsNew options := ⟨_, _, _, _, _, _, rfl⟩
  obtain ⟨⟨deeds, ledger⟩, conserved⟩ := requests_are_conserved options _ _ _ new refused
  obtain ⟨admits, balances, -⟩ := conserved deeds ledger
  refine ⟨_, _, deeds, _, refused, ledger, rfl, rfl, rfl, rfl, admits, balances 1 _ rfl ?_⟩
  refine Nat.lt_of_le_of_lt ((ledger.accounts new).few rfl) ?_
  decide

end DecisionPoint
