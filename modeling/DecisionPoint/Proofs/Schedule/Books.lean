import DecisionPoint.Proofs.Schedule.Exchange

/-!
# The books of the endpoint

When all requests come by the endpoint, the requests that came in, those that were handed in and the
responses can be counted against each other, and against the results, at any time.
-/

set_option autoImplicit false

namespace DecisionPoint

/-! ## Requests by the endpoint -/

/-- Whether something goes past the endpoint: somebody else has a request evaluated or handed in, or
goes away before the response. -/
def Happening.isAside : Happening → Bool
  | begun (.evaluating _ _) | begun (.authorizing _ _ _) | dropped (.answering _ _ _) => true
  | _ => false

def Happening.asked? : Happening → Option HttpRequest
  | begun (.answering .authorization request .fresh) =>
    if request.isAuthorization then some request else none
  | _ => none

/-- The requests for decisions, in order. -/
def askedIn (happenings : List Happening) : List HttpRequest :=
  happenings.filterMap Happening.asked?

namespace Activity

def isDeciding : Activity → Bool
  | answering listener request _ => listener = .authorization ∧ request.isAuthorization
  | _ => false

/-- An activity comes by the endpoint, or has nothing to do with requests. -/
def IsRegular (activity : Activity) : Prop :=
  match activity with
  | evaluating _ _ | authorizing _ _ _ => False
  | answering _ _ phase => phase = .fresh ∨ phase.isAuthorizing = activity.isDeciding
  | _ => True

def isAnswering : Activity → Bool
  | answering _ _ _ => true
  | _ => false

theorem Kin.isDeciding {activity activity' : Activity} (kin : activity.Kin activity') :
    activity'.isDeciding = activity.isDeciding := by
  cases kin <;> rfl

theorem isDeciding_of_other {activity : Activity} (other : activity.isAnswering = false) :
    activity.isDeciding = false := by
  cases activity <;> first | rfl | cases other

theorem Kin.isRegular {activity activity' : Activity} (kin : activity.Kin activity')
    (regular : activity.IsRegular) (other : activity.isAnswering = false) :
    activity'.IsRegular := by
  cases kin <;> first | exact regular | cases other

theorem IsRegular.tickets {activity : Activity} (regular : activity.IsRegular)
    (other : activity.isDeciding = false) : activity.tickets = [] := by
  cases activity with
  | authorizing giveUp request ticket => cases regular
  | answering listener request phase =>
      cases phase with
      | authorizing ticket deadline =>
          rcases regular with fresh | deciding
          · cases fresh
          · rw [other] at deciding
            cases deciding
      | _ => rfl
  | _ => rfl

/-- Only whoever answers requests, or waits for them to be decided, is told of a trouble. -/
theorem part_silent (service : Service) (surroundings : Surroundings) (now : Nat)
    (activity : Activity) (regular : activity.IsRegular)
    (other : activity.isAnswering = false) :
    (activity.part service surroundings now).2.result?.bind Answer.trouble? = none := by
  have mapped {α φ : Type} (f : α → Answer) (g : φ → Activity) (progress : Progress α φ)
      (silent : ∀ result, (f result).trouble? = none) :
      (progress.map f g).result?.bind Answer.trouble? = none := by
    cases progress with
    | done result => exact silent result
    | waiting phase => rfl
  cases activity with
  | loop number phase => exact mapped _ _ _ fun _ => rfl
  | worker id phase => exact mapped _ _ _ fun _ => rfl
  | starting phase => exact mapped _ _ _ fun _ => rfl
  | stopping phase => exact mapped _ _ _ fun _ => rfl
  | refreshing giveUp wait =>
      have after (run : PolicyCache × Journal × Progress RefreshOutcome FetchWait) :
          (afterRefresh service now giveUp run).2.result?.bind Answer.trouble? = none := by
        unfold afterRefresh
        split
        · rfl
        · split <;> rfl
      cases wait <;> exact after _
  | gating retries backoff gate =>
      have after (run : PolicyCache.GateRun) :
          (afterGate service retries backoff run).2.result?.bind Answer.trouble? = none := by
        unfold afterGate
        split <;> rfl
      cases gate <;> exact after _
  | stoppingLoop number => cases number <;> simp only [part, run] <;> split <;> rfl
  | evaluating request waited => cases regular
  | authorizing giveUp request ticket => cases regular
  | answering listener request phase => cases other
  | pausing time =>
      simp only [part, run]
      split <;> rfl

end Activity

namespace Happening

def activity? : Happening → Option Activity
  | turn activity _ | dropped activity => some activity
  | _ => none

theorem length_asked? (activity : Activity) (fresh : activity.isFresh = true) :
    (begun activity).asked?.toList.length = [activity].countP Activity.isDeciding := by
  cases activity with
  | answering listener request phase =>
      cases phase with
      | fresh =>
          cases listener with
          | admin => rfl
          | authorization =>
              cases asked : request.isAuthorization <;>
                simp [asked?, Activity.isDeciding, asked]
      | _ => cases fresh
  | _ => rfl

end Happening

namespace World

variable {world : World} {happening : Happening} {activity : Activity} {deeds : List Deed}
  {after : Service}

theorem Acts.accepted (acts : Acts world happening deeds after) {number : Nat} {job : Job}
    (accepted : .dealt number (.accepted job) ∈ deeds) :
    ∃ activity, happening.activity? = some activity ∧
      activity.asks world.surroundings.codec job.request := by
  cases acts with
  | rests quiet rests => cases accepted
  | joins => cases accepted
  | loopStarts governs => cases accepted
  | worker turn => cases turn.handsNothing _ accepted
  | evaluates look service now => simp at accepted
  | does other does => exact ⟨_, rfl, does.asks number job accepted⟩
  | drops does => exact ⟨_, rfl, does.asks number job accepted⟩

theorem Acts.handsNothing (acts : Acts world happening deeds after)
    (own : happening.activity? = some activity) (regular : activity.IsRegular)
    (other : activity.isAnswering = false) : handedIn deeds = [] := by
  rw [List.eq_nil_iff_forall_not_mem]
  rintro ⟨ticket, request⟩ mem
  obtain ⟨activity', here, asks⟩ := acts.accepted (mem_handedIn.mp mem)
  cases own.symm.trans here
  cases activity with
  | authorizing giveUp request' ticket' => cases regular
  | answering listener request' phase => cases other
  | _ => cases asks

end World

/-! ## Results -/

theorem finishedIn_of_aside {deeds : List Deed} (others : ∀ deed ∈ deeds, deed.isWorkers = false) :
    finishedIn deeds = [] := by
  rw [finishedIn, List.filterMap_eq_nil_iff]
  intro deed mem
  have other := others deed mem
  cases deed with
  | dealt number dealing =>
      cases dealing with
      | finished worker job result => cases other
      | _ => rfl
  | _ => rfl

theorem WorkerTurn.results {now : Nat} {id : WorkerId} {phase : WorkerPhase}
    {service after : Service} {deeds : List Deed} {progress : Progress Unit WorkerPhase}
    (turn : WorkerTurn now id phase service deeds after progress) :
    ((looksIn deeds).filterMap Look.result?).length = (finishedIn deeds).length := by
  have comesTo {look : Look} {after : Service} {progress : Progress FinalResult Evaluation}
      (ran : look.run = (after, progress)) : look.result? = progress.result? := by
    rw [Look.result?, ran]
  induction turn with
  | arrives rest ih => exact ih
  | begins found took waits =>
      simp only [results_looksIn_cons, Deed.look?, Option.bind_some, comesTo waits]
      rfl
  | serves found took done rest ih =>
      simp only [results_looksIn_cons, Deed.look?, Option.bind_some, comesTo done]
      exact congrArg (· + 1) ih
  | resumes waits =>
      simp only [results_looksIn_cons, Deed.look?, Option.bind_some, comesTo waits]
      rfl
  | finishes done rest ih =>
      simp only [results_looksIn_cons, Deed.look?, Option.bind_some, comesTo done]
      exact congrArg (· + 1) ih
  | _ => rfl

theorem map_takenUp (deeds : List Deed) :
    (takenUp deeds).map Prod.snd = (jobsBegun deeds).map Job.request := by
  rw [takenUp, jobsBegun, List.map_filterMap, List.map_filterMap]
  refine List.filterMap_congr ?_
  intro deed _
  cases deed with
  | dealt number dealing =>
      simp only [Deed.ticketed?, Deed.took?, Option.map_map]
      rfl
  | _ => rfl

/-! ## Turns -/

/-- A turn keeps the books: whoever asked is responded to or goes on waiting, and so is what was
handed in. -/
structure Activity.Counts (activity : Activity) (progress : Progress Answer Activity)
    (later : List Deed) : Prop where
  regular : ∀ activity' ∈ progress.rest, activity'.IsRegular
  asked : [activity].countP Activity.isDeciding =
    (Happening.turn activity progress).sent?.toList.length +
      progress.rest.countP Activity.isDeciding
  handed : activity.tickets.length + (handedIn later).length =
    ((Happening.turn activity progress).sent?.toList.countP Sent.isOfAccepted) +
      (progress.rest.flatMap Activity.tickets).length
  trouble : (Happening.turn activity progress).trouble? =
    (Happening.turn activity progress).sent?.bind fun sent => sent.response.trouble?

theorem Happening.sent?_of_other {activity : Activity} (other : activity.isDeciding = false)
    (progress : Progress Answer Activity) : (turn activity progress).sent? = none := by
  unfold sent?
  split
  · next request phase response same =>
      cases same
      have unasked : request.isAuthorization = false := by simpa [Activity.isDeciding] using other
      rw [unasked]
      rfl
  · rfl

theorem Activity.length_tickets_le (activity : Activity) : activity.tickets.length ≤ 1 := by
  cases activity with
  | authorizing giveUp request ticket => cases ticket <;> simp [tickets]
  | answering listener request phase => cases phase <;> simp [tickets, ExchangePhase.tickets]
  | _ => simp [tickets]

theorem Activity.length_flatMap_tickets_le {activities : List Activity}
    (regular : ∀ activity ∈ activities, activity.IsRegular) :
    (activities.flatMap tickets).length ≤ activities.countP isDeciding := by
  induction activities with
  | nil => exact Nat.le_refl 0
  | cons first rest ih =>
      have others := ih fun activity mem => regular activity (List.mem_cons_of_mem _ mem)
      rw [List.flatMap_cons, List.length_append, List.countP_cons]
      cases decides : first.isDeciding with
      | true =>
          have few := first.length_tickets_le
          rw [if_pos rfl]
          omega
      | false =>
          have none := (regular first List.mem_cons_self).tickets decides
          rw [none, if_neg Bool.false_ne_true, List.length_nil]
          omega

namespace Activity.Counts

variable {activity : Activity} {progress : Progress Answer Activity} {later : List Deed}

theorem ofOther (own : activity.IsRegular) (other : activity.isDeciding = false)
    (nothing : handedIn later = []) (kin : ∀ activity' ∈ progress.rest, activity.Kin activity')
    (regular : ∀ activity' ∈ progress.rest, activity'.IsRegular)
    (silent : progress.result?.bind Answer.trouble? = none) : activity.Counts progress later := by
  have none := Happening.sent?_of_other other progress
  have others (activity' : Activity) (mem : activity' ∈ progress.rest) :
      activity'.isDeciding = false := (kin activity' mem).isDeciding.trans other
  refine ⟨regular, ?_, ?_, ?_⟩
  · rw [none, List.countP_eq_zero.mpr (by simpa using other),
      List.countP_eq_zero.mpr (by simpa using others)]
    rfl
  · rw [none, nothing, own.tickets other, List.flatMap_eq_nil_iff.mpr fun activity' mem =>
      (regular activity' mem).tickets (others activity' mem)]
    rfl
  · rw [none, Happening.trouble?_turn, silent]
    rfl

theorem ofDeciding {service : Service} {request : HttpRequest} {phase : ExchangePhase}
    {run : Service.Answering} (authorizes : request.isAuthorization = true)
    (balances : service.Balances request phase run)
    (does : Service.Does false service later run.1) :
    (Activity.answering .authorization request phase).Counts
      (run.2.map (fun response => .responded (response.sentTo request))
        (.answering .authorization request)) later := by
  obtain ⟨service', progress⟩ := run
  obtain ⟨regular, canonical, does', few, balance⟩ := balances
  rw [← does.handedIn_eq does' few] at balance
  have deciding (phase : ExchangePhase) :
      (Activity.answering .authorization request phase).isDeciding = true := by
    simp [isDeciding, authorizes]
  cases progress with
  | waiting phase' =>
      refine ⟨?_, ?_, balance, rfl⟩
      · intro activity' mem
        cases List.mem_singleton.mp mem
        exact .inr ((regular phase' (List.mem_singleton_self _)).trans (deciding phase').symm)
      · simp [deciding, Progress.map, Progress.rest, Happening.sent?]
  | done response =>
      have sent := response.sentTo_of_isAuthorization authorizes
      have responds : (Happening.turn (.answering .authorization request phase)
          (.done (.responded response))).sent? = some ⟨request, phase, response⟩ := by
        simp [Happening.sent?, authorizes]
      simp only [Progress.map, sent]
      refine ⟨by simp [Progress.rest], ?_, ?_, ?_⟩
      · rw [responds, List.countP_singleton, if_pos (deciding phase)]
        rfl
      · rw [responds]
        simpa [Progress.rest, Progress.result?, Activity.tickets] using balance
      · rw [responds]
        rfl

theorem ofElsewhere {service : Service} {listener : Listener} {request : HttpRequest}
    {phase : ExchangePhase} {run : Service.Answering}
    (own : (Activity.answering listener request phase).IsRegular)
    (other : (Activity.answering listener request phase).isDeciding = false)
    (elsewhere : service.Elsewhere run) (does : Service.Does false service later run.1) :
    (Activity.answering listener request phase).Counts
      (run.2.map (fun response => .responded (response.sentTo request))
        (.answering listener request)) later := by
  obtain ⟨service', progress⟩ := run
  obtain ⟨rests, silent⟩ := elsewhere
  have nothing : handedIn later = [] :=
    does.handedIn_eq (.rests rests : Service.Does false _ [] _) (Nat.zero_le 1)
  cases progress with
  | waiting phase' =>
      refine ofOther own other nothing ?_ ?_ rfl
      · intro activity' mem
        cases List.mem_singleton.mp mem
        exact .answering
      · intro activity' mem
        cases List.mem_singleton.mp mem
        exact .inr (silent.trans other.symm)
  | done response =>
      refine ofOther own other nothing (by simp [Progress.map, Progress.rest])
        (by simp [Progress.map, Progress.rest]) ?_
      have shown := response.trouble?_sentTo request fun busy => by rw [silent] at busy; cases busy
      exact shown.trans silent

theorem handsNothing (counts : activity.Counts progress later) (own : activity.IsRegular)
    (other : activity.isDeciding = false) : handedIn later = [] := by
  have asked := counts.asked
  have handed := counts.handed
  have few := length_flatMap_tickets_le counts.regular
  rw [Happening.sent?_of_other other, List.countP_singleton, other] at asked
  rw [Happening.sent?_of_other other, own.tickets other] at handed
  simp only [Option.toList_none, List.length_nil, List.countP_nil, Bool.false_eq_true, if_false]
    at asked handed
  exact List.length_eq_zero_iff.mp (by omega)

end Activity.Counts

namespace World

variable {beginning world next : World} {happening : Happening} {happenings : List Happening}
  {deeds later : List Deed}

theorem Step.counts {activity : Activity} {progress : Progress Answer Activity}
    (step : Step world (.turn activity progress) next)
    (acts : Acts world (.turn activity progress) later next.service)
    (unanswered : world.service.Unanswered) (own : activity.IsRegular) :
    activity.Counts progress later := by
  cases answers : activity.isAnswering with
  | true =>
      cases activity with
      | answering listener request phase =>
          obtain ⟨-, service, rfl⟩ := step.answered
          have does := acts.ofAnswering
          rw [service] at does
          cases decides : (Activity.answering listener request phase).isDeciding with
          | true =>
              obtain ⟨rfl, authorizes⟩ := of_decide_eq_true decides
              rw [Activity.IsRegular, decides] at own
              exact .ofDeciding authorizes (world.service.answer_balances world.now _ _ _ unanswered
                request authorizes phase own) does
          | false =>
              refine .ofElsewhere own decides
                (world.service.answer_elsewhere world.now _ _ _ listener request phase ?_ ?_) does
              · rcases own with rfl | same
                · rfl
                · exact same.trans decides
              · rintro - rfl
                simpa [Activity.isDeciding] using decides
      | _ => cases answers
  | false =>
      have decides := Activity.isDeciding_of_other answers
      have nothing := acts.handsNothing rfl own answers
      cases step with
      | turns left right activity service progress split ran =>
          have kin := Activity.rest_kin world.service world.surroundings world.now ran
          have silent :=
            activity.part_silent world.service world.surroundings world.now own answers
          rw [ran] at silent
          exact .ofOther own decides nothing kin
            (fun activity' mem => (kin activity' mem).isRegular own answers) silent
      | overlooks left right number phase phase' cache journal split ran =>
          refine .ofOther own decides nothing ?_ ?_ rfl
          · intro activity' mem
            cases List.mem_singleton.mp mem
            exact .loop
          · intro activity' mem
            cases List.mem_singleton.mp mem
            trivial

/-! ## Steps -/

/-- What happens is entered in the books: who asks, what is handed in, and what is responded. -/
structure Enters (world : World) (happening : Happening) (later : List Deed) (next : World) :
    Prop where
  regular : ∀ activity ∈ next.tasks, activity.IsRegular
  asked : happening.asked?.toList.length + world.tasks.countP Activity.isDeciding =
    happening.sent?.toList.length + next.tasks.countP Activity.isDeciding
  handed : (world.tasks.flatMap Activity.tickets).length + (handedIn later).length =
    (happening.sent?.toList.countP Sent.isOfAccepted) +
      (next.tasks.flatMap Activity.tickets).length
  trouble : happening.trouble? = happening.sent?.bind fun sent => sent.response.trouble?

/-- Something happens aside from all that goes on, and some more may go on after it. -/
theorem Enters.ofMore {more : List Activity} (tasks : next.tasks = world.tasks ++ more)
    (regular : ∀ activity ∈ world.tasks, activity.IsRegular)
    (regular' : ∀ activity ∈ more, activity.IsRegular)
    (none : ∀ activity ∈ more, activity.tickets = [])
    (asked : happening.asked?.toList.length = more.countP Activity.isDeciding)
    (responds : happening.sent? = .none) (silent : happening.trouble? = .none) :
    Enters world happening [] next := by
  refine ⟨?_, ?_, ?_, ?_⟩
  · intro activity mem
    rw [tasks] at mem
    exact (List.mem_append.mp mem).elim (regular activity) (regular' activity)
  · rw [tasks, responds, List.countP_append, asked]
    simp only [Option.toList_none, List.length_nil]
    omega
  · rw [tasks, responds, List.flatMap_append, List.flatMap_eq_nil_iff.mpr none]
    simp [handedIn]
  · rw [responds, silent]
    rfl

theorem Enters.ofTurn {left right : List Activity} {activity : Activity}
    {progress : Progress Answer Activity} (split : world.tasks = left ++ activity :: right)
    (tasks : next.tasks = left ++ progress.rest ++ right)
    (regular : ∀ activity ∈ world.tasks, activity.IsRegular)
    (counts : activity.Counts progress later) :
    Enters world (.turn activity progress) later next := by
  rw [split] at regular
  refine ⟨?_, ?_, ?_, counts.trouble⟩
  · intro activity' mem
    simp only [tasks, List.mem_append] at mem
    rcases mem with (before | own) | after
    · exact regular activity' (by simp [before])
    · exact counts.regular activity' own
    · exact regular activity' (by simp [after])
  · have asked := counts.asked
    simp only [split, tasks, List.countP_append, List.countP_cons, List.countP_nil] at asked ⊢
    simp only [Happening.asked?, Option.toList_none, List.length_nil]
    omega
  · have handed := counts.handed
    simp only [split, tasks, List.flatMap_append, List.flatMap_cons, List.length_append]
    omega

theorem Enters.ofDropped {left right : List Activity} {activity : Activity}
    (split : world.tasks = left ++ activity :: right) (tasks : next.tasks = left ++ right)
    (regular : ∀ activity ∈ world.tasks, activity.IsRegular)
    (other : activity.isDeciding = false) (nothing : handedIn later = []) :
    Enters world (.dropped activity) later next := by
  rw [split] at regular
  have none := (regular activity (by simp)).tickets other
  refine ⟨?_, ?_, ?_, rfl⟩
  · intro activity' mem
    rw [tasks] at mem
    refine regular activity' ?_
    rcases List.mem_append.mp mem with before | after
    · simp [before]
    · simp [after]
  · simp [split, tasks, other, Happening.asked?, Happening.sent?]
  · simp [split, tasks, none, nothing, Happening.sent?]

theorem Step.enters (step : Step world happening next)
    (acts : Acts world happening later next.service) (served : happening.isAside = false)
    (unanswered : world.service.Unanswered)
    (regular : ∀ activity ∈ world.tasks, activity.IsRegular) :
    Enters world happening later next := by
  have same (tasks : next.tasks = world.tasks) : next.tasks = world.tasks ++ [] := by
    rw [tasks, List.append_nil]
  cases step with
  | time later' forward | source source | registry registry =>
      cases acts with
      | rests quiet rests => exact .ofMore (same rfl) regular (by simp) (by simp) rfl rfl rfl
  | loopStarts service started =>
      cases acts with
      | rests quiet rests => cases quiet
      | loopStarts governs => exact .ofMore (same rfl) regular (by simp) (by simp) rfl rfl rfl
  | joins =>
      cases acts with
      | rests quiet rests => cases quiet
      | joins =>
          have joined (activity : Activity)
              (mem : activity ∈ world.service.spawned.map Spawned.activity) :
              activity.IsRegular ∧ activity.tickets = [] ∧ activity.isDeciding = false := by
            obtain ⟨spawned, -, rfl⟩ := List.mem_map.mp mem
            cases spawned <;> exact ⟨trivial, rfl, rfl⟩
          refine .ofMore rfl regular (fun activity mem => (joined activity mem).1)
            (fun activity mem => (joined activity mem).2.1) ?_ rfl rfl
          exact (List.countP_eq_zero.mpr fun activity mem => by
            rw [(joined activity mem).2.2]
            exact Bool.false_ne_true).symm
  | begins activity fresh =>
      cases acts with
      | rests quiet rests =>
          have none := activity.tickets_of_isFresh fresh
          refine .ofMore rfl regular ?_ (by simpa using none) (Happening.length_asked? _ fresh) rfl
            rfl
          intro activity' mem
          cases List.mem_singleton.mp mem
          cases activity with
          | evaluating request waited => cases served
          | authorizing giveUp request ticket => cases served
          | answering listener request phase =>
              cases phase with
              | fresh => exact .inl rfl
              | _ => cases fresh
          | _ => trivial
  | turns left right activity service progress split ran =>
      exact .ofTurn split rfl regular
        (Step.counts (.turns left right activity service progress split ran) acts unanswered
          (regular activity (by simp [split])))
  | overlooks left right number phase phase' cache journal split ran =>
      refine .ofTurn split ?_ regular
        (Step.counts (.overlooks left right number phase phase' cache journal split ran) acts
          unanswered (regular _ (by simp [split])))
      simp [Progress.rest]
  | drops left right activity split droppable =>
      -- Nobody drops the answer to a request, so no response goes missing.
      have own := regular activity (by simp [split])
      have other : activity.isAnswering = false := by
        cases activity with
        | answering listener request phase => cases served
        | _ => rfl
      exact .ofDropped split rfl regular (Activity.isDeciding_of_other other)
        (acts.handsNothing rfl own other)

/-! ## Whole runs -/

theorem Step.mem_of_activity? {activity : Activity} (step : Step world happening next)
    (own : happening.activity? = some activity) : activity ∈ world.tasks := by
  cases step with
  | turns left right activity' service progress split ran =>
      cases own
      simp [split]
  | overlooks left right number phase phase' cache journal split ran =>
      cases own
      simp [split]
  | drops left right activity' split droppable =>
      cases own
      simp [split]
  | _ => cases own

theorem Step.not_evaluating (step : Step world happening next)
    (regular : ∀ activity ∈ world.tasks, activity.IsRegular) (request : Request)
    (waited : Option Evaluation) (progress : Progress Answer Activity) :
    happening ≠ .turn (.evaluating request waited) progress := by
  rintro rfl
  exact regular _ (step.mem_of_activity? rfl)

theorem Acts.results {after : Service} (acts : Acts world happening later after)
    (other : ∀ request waited progress, happening ≠ .turn (.evaluating request waited) progress) :
    ((looksIn later).filterMap Look.result?).length = (finishedIn later).length := by
  have aside (looks : ∀ look, .looked look ∉ later)
      (others : ∀ deed ∈ later, deed.isWorkers = false) :
      ((looksIn later).filterMap Look.result?).length = (finishedIn later).length := by
    rw [looksIn_eq_nil looks, finishedIn_of_aside others]
    rfl
  cases acts with
  | rests quiet rests => rfl
  | joins => rfl
  | loopStarts governs => rfl
  | worker turn => exact turn.results
  | evaluates look service now => exact absurd rfl (other _ _ _)
  | does _ does => exact aside does.does.looks does.does.aside
  | drops does => exact aside does.does.looks does.does.aside

/-- The books of a run: at any time, the requests that came in, the requests that were handed in and
the results agree with the responses and with what goes on. -/
structure Books (happenings : List Happening) (world : World) (deeds : List Deed) : Prop where
  regular : ∀ activity ∈ world.tasks, activity.IsRegular
  asked : (askedIn happenings).length =
    (sentIn happenings).length + world.tasks.countP Activity.isDeciding
  handed : (handedIn deeds).length =
    ((sentIn happenings).countP Sent.isOfAccepted) +
      (world.tasks.flatMap Activity.tickets).length
  troubles : troublesIn happenings =
    (sentIn happenings).filterMap fun sent => sent.response.trouble?
  results : ((looksIn deeds).filterMap Look.result?).length = (finishedIn deeds).length
  begun : evaluationsBegun deeds = (takenUp deeds).map Prod.snd

theorem Books.step (books : Books happenings world deeds) (step : Step world happening next)
    (acts : Acts world happening later next.service) (served : happening.isAside = false)
    (unanswered : world.service.Unanswered) :
    Books (happenings ++ [happening]) next (deeds ++ later) := by
  have enters := step.enters acts served unanswered books.regular
  have other := step.not_evaluating books.regular
  have last {α : Type} (f : Happening → Option α) :
      (happenings ++ [happening]).filterMap f = happenings.filterMap f ++ (f happening).toList := by
    cases kept : f happening <;> simp [kept]
  refine ⟨enters.regular, ?_, ?_, ?_, ?_, ?_⟩
  · have before := books.asked
    have now := enters.asked
    rw [askedIn, sentIn] at before ⊢
    rw [last, last, List.length_append, List.length_append]
    omega
  · have before := books.handed
    have now := enters.handed
    rw [sentIn] at before ⊢
    rw [handedIn_append, last, List.length_append, List.countP_append]
    omega
  · have before := books.troubles
    rw [troublesIn, sentIn] at before ⊢
    rw [last, last, List.filterMap_append, before, enters.trouble]
    cases happening.sent? with
    | none => rfl
    | some sent => cases told : sent.response.trouble? <;> simp [told]
  · have before := books.results
    have now := acts.results other
    rw [finishedIn] at before now ⊢
    rw [looksIn] at before now ⊢
    simp only [List.filterMap_append, List.length_append]
    omega
  · have before := books.begun
    have now := (acts.begun other).trans (map_takenUp later).symm
    rw [evaluationsBegun, takenUp] at before now ⊢
    rw [List.filterMap_append, List.filterMap_append, List.map_append, before, now]

theorem Books.length_results_le {options : ServiceOptions} (books : Books happenings world deeds)
    (accounts : Accounts options deeds world.service world.activities) :
    ((looksIn deeds).filterMap Look.result?).length ≤ (askedIn happenings).length := by
  have finished := accounts.length_finishedIn_le
  have held := Activity.length_flatMap_tickets_le books.regular
  have accepted : ((sentIn happenings).countP Sent.isOfAccepted) ≤
      (sentIn happenings).length := List.countP_le_length
  have handed := books.handed
  rw [books.results, books.asked]
  omega

theorem Ledger.books {options : ServiceOptions} (ledger : Ledger beginning happenings world deeds)
    (new : beginning.IsNew options)
    (served : ∀ happening ∈ happenings, happening.isAside = false) :
    Books happenings world deeds := by
  induction ledger with
  | start =>
      obtain ⟨source, engine, points, handlers, startedAt, surroundings, rfl⟩ := new
      exact ⟨by simp [World.start], rfl, rfl, rfl, rfl, rfl⟩
  | step earlier step acts ih =>
      have books := ih fun happening mem => served happening (List.mem_append_left _ mem)
      exact books.step step acts (served _ (by simp)) (earlier.accounts new).unanswered

end World

end DecisionPoint
