import DecisionPoint.Proofs.Admission.Account

/-!
# The holders of tickets

Each ticket has one holder at most.  Until it is let go of, it stands for a request that its holder
has handed in.
-/

set_option autoImplicit false

namespace DecisionPoint

/-- Whoever holds a ticket has handed in a request under it and still waits. -/
structure Holders (codec : Codec) (deeds : List Deed) (tasks : List Activity) : Prop where
  asks : ∀ activity ∈ tasks, ∀ ticket ∈ activity.tickets, ∃ request,
    .dealt ticket.shell (.accepted ⟨ticket.number, request⟩) ∈ deeds ∧ activity.asks codec request
  waits : ∀ activity ∈ tasks, ∀ ticket ∈ activity.tickets,
    .dealt ticket.shell (.left ticket.number) ∉ deeds
  distinct : (tasks.flatMap Activity.tickets).Nodup
  own : ∀ ticket : Ticket, .dealt ticket.shell (.left ticket.number) ∈ deeds →
    ∃ request, .dealt ticket.shell (.accepted ⟨ticket.number, request⟩) ∈ deeds

theorem Service.Does.numbers {governing : Bool} {before after : Service} {deeds : List Deed}
    (does : Service.Does governing before deeds after) :
    before.nextNumber ≤ after.nextNumber ∧
      ∀ number job, .dealt number (.accepted job) ∈ deeds → before.nextNumber ≤ job.number := by
  induction does with
  | rests rests => exact ⟨rests.numbers, by simp⟩
  | governs governs => exact ⟨governs.numbers, by simp⟩
  | accepts admits found answer =>
      refine ⟨Nat.le_succ _, ?_⟩
      intro number job accepted
      cases List.mem_singleton.mp accepted
      exact Nat.le_refl _
  | isBusy admits found answer => exact ⟨Nat.le_succ _, by simp⟩
  | isClosed admits found answer => exact ⟨Nat.le_succ _, by simp⟩
  | turnsAway shut => exact ⟨Nat.le_refl _, by simp⟩
  | leaves found => exact ⟨Nat.le_refl _, by simp⟩
  | opens opens => exact ⟨Nat.le_succ _, by simp⟩
  | closes admits found => exact ⟨Nat.le_refl _, by simp⟩
  | forgets shut => exact ⟨Nat.le_refl _, by simp⟩
  | followed _ _ ih ih' =>
      refine ⟨Nat.le_trans ih.1 ih'.1, ?_⟩
      intro number job accepted
      rcases List.mem_append.mp accepted with first | second
      · exact ih.2 number job first
      · exact Nat.le_trans ih.1 (ih'.2 number job second)

theorem WorkerTurn.handsNothing {now : Nat} {id : WorkerId} {phase : WorkerPhase}
    {service after : Service} {deeds : List Deed} {progress : Progress Unit WorkerPhase}
    (turn : WorkerTurn now id phase service deeds after progress) : HandsNothing deeds := by
  induction turn with
  | arrives rest ih | serves found took done rest ih | finishes done rest ih =>
      simp only [HandsNothing, List.forall_mem_cons, Deed.isHanding, true_and]
      exact ih
  | _ => simp [HandsNothing, Deed.isHanding]

theorem Activity.nodup_tickets (activity : Activity) : activity.tickets.Nodup := by
  cases activity with
  | authorizing giveUp request ticket =>
      cases ticket with
      | none => exact .nil
      | some ticket => exact List.nodup_singleton ticket
  | answering listener request phase =>
      cases phase with
      | authorizing ticket deadline => exact List.nodup_singleton ticket
      | _ => exact .nil
  | _ => exact .nil

namespace Holders

variable {codec : Codec} {deeds later : List Deed} {left right rest tasks : List Activity}
  {activity : Activity} {next : Nat}

theorem joined (holders : Holders codec deeds tasks) {more : List Activity}
    (none : ∀ activity ∈ more, activity.tickets = []) : Holders codec deeds (tasks ++ more) := by
  obtain ⟨asks, waits, distinct, own⟩ := holders
  have nobody {activity : Activity} {ticket : Ticket} (mem : activity ∈ tasks ++ more)
      (held : ticket ∈ activity.tickets) : activity ∈ tasks := by
    rcases List.mem_append.mp mem with before | new
    · exact before
    · rw [none activity new] at held
      cases held
  refine ⟨?_, ?_, ?_, own⟩
  · intro activity mem ticket held
    exact asks activity (nobody mem held) ticket held
  · intro activity mem ticket held
    exact waits activity (nobody mem held) ticket held
  · rw [List.flatMap_append, List.flatMap_eq_nil_iff.mpr none, List.append_nil]
    exact distinct

theorem mem_around {other : Activity} (mem : other ∈ left ∨ other ∈ right) :
    other ∈ left ++ activity :: right := by
  rcases mem with before | after
  · exact List.mem_append_left _ before
  · exact List.mem_append_right _ (List.mem_cons_of_mem _ after)

/-- A ticket of another activity is neither held by the one whose turn it is nor handed in now. -/
theorem apart (holders : Holders codec deeds (left ++ activity :: right))
    (clash : ∀ ticket : Ticket, ∀ request request',
      .dealt ticket.shell (.accepted ⟨ticket.number, request⟩) ∈ deeds →
        .dealt ticket.shell (.accepted ⟨ticket.number, request'⟩) ∉ later)
    {other : Activity} {ticket : Ticket} (mem : other ∈ left ∨ other ∈ right)
    (held : ticket ∈ other.tickets) :
    ticket ∉ activity.tickets ∧
      ∀ request, .dealt ticket.shell (.accepted ⟨ticket.number, request⟩) ∉ later := by
  constructor
  · intro here
    have distinct := holders.distinct
    simp only [List.flatMap_append, List.flatMap_cons, List.nodup_append] at distinct
    rcases mem with before | after
    · exact distinct.2.2 ticket (List.mem_flatMap.mpr ⟨other, before, held⟩) ticket
        (List.mem_append_left _ here) rfl
    · exact distinct.2.1.2.2 ticket here ticket (List.mem_flatMap.mpr ⟨other, after, held⟩) rfl
  · intro request
    obtain ⟨request', before, -⟩ := holders.asks other (mem_around mem) ticket held
    exact clash ticket request' request before

theorem nodup_turn (distinct : ((left ++ activity :: right).flatMap Activity.tickets).Nodup)
    (few : (rest.flatMap Activity.tickets).Nodup)
    (apart : ∀ other ticket, other ∈ left ∨ other ∈ right → ticket ∈ other.tickets →
      ticket ∉ rest.flatMap Activity.tickets) :
    ((left ++ rest ++ right).flatMap Activity.tickets).Nodup := by
  simp only [List.flatMap_append, List.flatMap_cons, List.append_assoc, List.nodup_append]
    at distinct ⊢
  obtain ⟨first, ⟨-, second, -⟩, third⟩ := distinct
  refine ⟨first, ⟨few, second, ?_⟩, ?_⟩
  · rintro ticket here _ away rfl
    obtain ⟨other, mem, held⟩ := List.mem_flatMap.mp away
    exact apart other ticket (.inr mem) held here
  · rintro ticket away _ here rfl
    obtain ⟨other, mem, held⟩ := List.mem_flatMap.mp away
    rcases List.mem_append.mp here with own | after
    · exact apart other ticket (.inl mem) held own
    · exact third ticket away ticket (List.mem_append_right _ after) rfl

theorem turn (holders : Holders codec deeds (left ++ activity :: right))
    (hands : Hands activity.tickets later (rest.flatMap Activity.tickets))
    (asks : ∀ number job, .dealt number (.accepted job) ∈ later → activity.asks codec job.request)
    (kin : ∀ activity' ∈ rest, activity.Kin activity')
    (few : (rest.flatMap Activity.tickets).Nodup)
    (old : ∀ number job, .dealt number (.accepted job) ∈ deeds → job.number < next)
    (new : ∀ number job, .dealt number (.accepted job) ∈ later → next ≤ job.number) :
    Holders codec (deeds ++ later) (left ++ rest ++ right) := by
  -- Numbers that are given away now are later than all earlier ones.
  have clash (ticket : Ticket) (request request' : Request)
      (before : .dealt ticket.shell (.accepted ⟨ticket.number, request⟩) ∈ deeds) :
      .dealt ticket.shell (.accepted ⟨ticket.number, request'⟩) ∉ later := by
    intro now
    have early : ticket.number < next := old _ _ before
    have late : next ≤ ticket.number := new _ _ now
    exact Nat.not_lt.mpr late early
  have present : activity ∈ left ++ activity :: right :=
    List.mem_append_right _ List.mem_cons_self
  have cases' {other : Activity} (mem : other ∈ left ++ rest ++ right) :
      (other ∈ left ∨ other ∈ right) ∨ other ∈ rest := by
    simp only [List.mem_append] at mem
    tauto
  have mine {other : Activity} {ticket : Ticket} (mem : other ∈ rest)
      (held : ticket ∈ other.tickets) : ticket ∈ activity.tickets ∨
        ∃ request, .dealt ticket.shell (.accepted ⟨ticket.number, request⟩) ∈ later :=
    hands.kept ticket (List.mem_flatMap.mpr ⟨other, mem, held⟩)
  refine ⟨?_, ?_, ?_, ?_⟩
  · intro other mem ticket held
    rcases cases' mem with away | here
    · obtain ⟨request, accepted, asked⟩ := holders.asks other (mem_around away) ticket held
      exact ⟨request, List.mem_append_left _ accepted, asked⟩
    · rcases mine here held with before | ⟨request, accepted⟩
      · obtain ⟨request, accepted, asked⟩ := holders.asks activity present ticket before
        exact ⟨request, List.mem_append_left _ accepted, (kin other here).asks request asked⟩
      · exact ⟨request, List.mem_append_right _ accepted,
          (kin other here).asks request (asks _ _ accepted)⟩
  · intro other mem ticket held left'
    rcases List.mem_append.mp left' with before | now
    · rcases cases' mem with away | here
      · exact holders.waits other (mem_around away) ticket held before
      · rcases mine here held with held' | ⟨request, accepted⟩
        · exact holders.waits activity present ticket held' before
        · obtain ⟨request', accepted'⟩ := holders.own ticket before
          exact clash ticket request' request accepted' accepted
    · rcases cases' mem with away | here
      · obtain ⟨apart, unasked⟩ := holders.apart clash away held
        rcases hands.own ticket now with own | ⟨request, accepted⟩
        · exact apart own
        · exact unasked request accepted
      · exact hands.still ticket (List.mem_flatMap.mpr ⟨other, here, held⟩) now
  · refine nodup_turn holders.distinct few fun other ticket mem held own => ?_
    obtain ⟨notHeld, unasked⟩ := holders.apart clash mem held
    rcases hands.kept ticket own with here | ⟨request, accepted⟩
    · exact notHeld here
    · exact unasked request accepted
  · intro ticket left'
    rcases List.mem_append.mp left' with before | now
    · obtain ⟨request, accepted⟩ := holders.own ticket before
      exact ⟨request, List.mem_append_left _ accepted⟩
    · rcases hands.own ticket now with held | ⟨request, accepted⟩
      · obtain ⟨request, accepted, -⟩ := holders.asks activity present ticket held
        exact ⟨request, List.mem_append_left _ accepted⟩
      · exact ⟨request, List.mem_append_right _ accepted⟩

end Holders

/-! ## Whole runs -/

theorem Accounts.accepted {options : ServiceOptions} {deeds : List Deed} {service : Service}
    {activities : List Activity} (accounts : Accounts options deeds service activities)
    (number : Nat) (job : Job) (accepted : .dealt number (.accepted job) ∈ deeds) :
    job.number < service.nextNumber := by
  have dealing := (mem_dealingsAt number).mpr accepted
  exact accounts.submitted number job.number (List.mem_filterMap.mpr ⟨_, dealing, rfl⟩)

theorem Activity.tickets_of_isFresh (activity : Activity) (fresh : activity.isFresh = true) :
    activity.tickets = [] := by
  unfold isFresh at fresh
  split at fresh
  case h_10 => cases fresh
  all_goals rfl

namespace World

variable {world next : World} {happening : Happening} {deeds later : List Deed}
  {options : ServiceOptions}

theorem Step.holders (step : Step world happening next)
    (acts : Acts world happening later next.service)
    (accounts : Accounts options deeds world.service world.activities)
    (holders : Holders world.surroundings.codec deeds world.tasks) :
    Holders next.surroundings.codec (deeds ++ later) next.tasks := by
  have same : Holders world.surroundings.codec (deeds ++ []) world.tasks := by
    rw [List.append_nil]
    exact holders
  cases step with
  | time later' forward | source source | registry registry =>
      cases acts with
      | rests quiet rests => exact same
  | loopStarts service started =>
      cases acts with
      | rests quiet rests => cases quiet
      | loopStarts governs => exact same
  | joins =>
      cases acts with
      | rests quiet rests => cases quiet
      | joins =>
          refine same.joined ?_
          intro activity new
          obtain ⟨spawned, -, rfl⟩ := List.mem_map.mp new
          cases spawned <;> rfl
  | begins activity fresh =>
      cases acts with
      | rests quiet rests =>
          refine same.joined ?_
          intro activity' new
          cases List.mem_singleton.mp new
          exact activity.tickets_of_isFresh fresh
  | turns left right activity service progress split ran =>
      -- Only here tickets are handed out; what is left of the activity holds its own and no more.
      rw [split] at holders
      have kin := Activity.rest_kin world.service world.surroundings world.now ran
      have few : (progress.rest.flatMap Activity.tickets).Nodup := by
        cases progress with
        | done answer => exact .nil
        | waiting activity' =>
            rw [Progress.rest, List.flatMap_singleton]
            exact activity'.nodup_tickets
      cases acts with
      | rests quiet rests => cases quiet
      | worker turn =>
          refine holders.turn ?_ (turn.handsNothing.asks _) kin few accounts.accepted ?_
          · rw [Activity.flatMap_tickets_map _ _ (fun _ => rfl)]
            exact turn.handsNothing.hands
          · intro number job accepted
            cases turn.handsNothing _ accepted
      | evaluates look service' now =>
          have nothing : HandsNothing [.looked look] := .single rfl
          refine holders.turn ?_ (nothing.asks _) kin few accounts.accepted ?_
          · rw [Look.progress, Activity.flatMap_tickets_map _ _ (fun _ => rfl)]
            exact nothing.hands
          · intro number job accepted
            cases nothing _ accepted
      | does other does =>
          exact holders.turn does.hands does.asks kin few accounts.accepted does.does.numbers.2
  | overlooks left right number phase phase' cache journal split ran =>
      rw [split] at holders
      cases acts with
      | rests quiet rests => cases quiet
      | does other does =>
          have turned := holders.turn does.hands does.asks
            (fun activity' own => by cases List.mem_singleton.mp own; exact .loop) .nil
            accounts.accepted does.does.numbers.2
          rw [Progress.rest, List.append_assoc] at turned
          exact turned
  | drops left right activity split droppable =>
      rw [split] at holders
      cases acts with
      | rests quiet rests => cases quiet
      | drops does =>
          have turned := holders.turn does.hands does.asks (fun _ own => by cases own) .nil
            accounts.accepted does.does.numbers.2
          rw [Progress.rest, List.append_nil] at turned
          exact turned

theorem Ledger.holders {beginning : World} {happenings : List Happening}
    (ledger : Ledger beginning happenings world deeds) (new : beginning.IsNew options) :
    Holders world.surroundings.codec deeds world.tasks := by
  induction ledger with
  | start =>
      obtain ⟨source, engine, points, handlers, startedAt, surroundings, rfl⟩ := new
      exact ⟨by simp [World.start], by simp [World.start], .nil, by simp⟩
  | step earlier step acts ih => exact step.holders acts (earlier.accounts new) ih

end World

end DecisionPoint
