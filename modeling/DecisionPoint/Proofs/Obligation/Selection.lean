import DecisionPoint.Proofs.Keyed
import DecisionPoint.Proofs.Obligation.History
import DecisionPoint.Proofs.Obligation.Walk

/-!
# Which handlers run, and in which order

A registry runs the handlers that the decision and its obligations select, in the order of the
handlers, until one of them does not succeed.  Nothing else matters: neither the history of the
registry nor the order in which obligations of different identifiers are listed.
-/

set_option autoImplicit false

namespace DecisionPoint

/-! ## The obligation of an identifier -/

/-- The last obligation of an identifier among those whose effect the decision has. -/
def Outcome.lastMatching? (outcome : Outcome) (obligationId : String) : Option Obligation :=
  (outcome.obligations.filter fun o =>
    decide (o.id = obligationId) && o.fulfillOn.matches? outcome.decision).getLast?

theorem Outcome.effective_get? (outcome : Outcome) (obligationId : String) :
    outcome.effective.get? obligationId = outcome.lastMatching? obligationId := by
  rw [Outcome.effective, Keyed.get?_ofList, List.filter_filter]
  rfl

theorem Outcome.lastMatching?_isSome_iff (outcome : Outcome) (obligationId : String) :
    (∃ obligation, outcome.lastMatching? obligationId = some obligation) ↔
      ∃ obligation ∈ outcome.obligations, obligation.id = obligationId ∧
        obligation.fulfillOn.matches? outcome.decision = true := by
  rw [← Option.isSome_iff_exists, Outcome.lastMatching?, List.getLast?_isSome,
    ← List.length_pos_iff, List.length_pos_iff_exists_mem]
  simp

/-! ## The selected handlers -/

/-- The handlers that an outcome calls for. -/
structure Selected (holding : Holding) (outcome : Outcome) (handler : Handler) : Prop where
  registered : holding handler.obligationId = some handler
  obliged : ∃ obligation ∈ outcome.obligations, obligation.id = handler.obligationId ∧
    obligation.fulfillOn.matches? outcome.decision = true
  admitted : handler.admits outcome.decision = true

/-- What a registry does when it selects these handlers, in this order. -/
structure Follows (request : Request) (outcome : Outcome) (selection : List Handler)
    (processing : HandlerRegistry.Processing) : Prop where
  given : ∀ call ∈ processing.calls, outcome.lastMatching? call.1.obligationId = some call.2
  completed :
    (∀ handler ∈ selection, ∀ obligation,
      outcome.lastMatching? handler.obligationId = some obligation →
        handler.apply request outcome obligation = .fulfilled) →
    processing.calls.map Prod.fst = selection ∧
      processing.result = .ok (selection.map Handler.obligationId)
  aborted : ∀ earlier failing later obligation fault,
    selection = earlier ++ failing :: later →
    (∀ handler ∈ earlier, ∀ obligation,
      outcome.lastMatching? handler.obligationId = some obligation →
        handler.apply request outcome obligation = .fulfilled) →
    outcome.lastMatching? failing.obligationId = some obligation →
    (failing.apply request outcome obligation = .failed fault ∨
      failing.apply request outcome obligation = .panicked ∧
        fault = ⟨failing.obligationId, "handler panicked"⟩) →
    processing.calls.map Prod.fst = earlier ++ [failing] ∧ processing.result = .error fault

namespace HandlerRegistry

theorem task?_eq_some_iff (outcome : Outcome) (item : HandlerKey × Handler)
    (obligation : Obligation) :
    task? outcome.effective outcome.decision item = some obligation ↔
      outcome.lastMatching? item.1.obligationId = some obligation ∧
        item.2.admits outcome.decision = true := by
  rw [task?, outcome.effective_get?]
  cases outcome.lastMatching? item.1.obligationId with
  | none => simp
  | some last => by_cases admitted : item.2.admits outcome.decision = true <;> simp [admitted]

theorem mem_tasks (outcome : Outcome) (items : List (HandlerKey × Handler)) (task : Task) :
    task ∈ tasks outcome.effective outcome.decision items ↔
      task.item ∈ items ∧
        task? outcome.effective outcome.decision task.item = some task.obligation := by
  rw [tasks, List.mem_filterMap]
  constructor
  · rintro ⟨item, member, found⟩
    obtain ⟨obligation, due, same⟩ := Option.map_eq_some_iff.mp found
    subst same
    exact ⟨member, due⟩
  · rintro ⟨member, due⟩
    refine ⟨task.item, member, ?_⟩
    rw [due]
    rfl

/-- What is known of a task of a registry whose tables agree. -/
structure Due (holding : Holding) (outcome : Outcome) (task : Task) : Prop where
  key : task.item.1 = .ofHandler task.item.2
  held : holding task.item.2.obligationId = some task.item.2
  last : outcome.lastMatching? task.item.2.obligationId = some task.obligation
  admitted : task.item.2.admits outcome.decision = true

theorem Due.id_eq {holding : Holding} {outcome : Outcome} {task : Task}
    (due : Due holding outcome task) :
    task.id = task.item.2.obligationId :=
  congrArg HandlerKey.obligationId due.key

/-- The handlers that a registry calls when all succeed. -/
def selection (registry : HandlerRegistry) (outcome : Outcome) : List Handler :=
  (tasks outcome.effective outcome.decision registry.ordered).map fun task => task.item.2

namespace Represents

variable {registry : HandlerRegistry} {holding : Holding}

theorem mem_tasks_iff (represents : registry.Represents holding) (outcome : Outcome)
    (task : Task) :
    task ∈ tasks outcome.effective outcome.decision registry.ordered ↔
      Due holding outcome task := by
  rw [mem_tasks, task?_eq_some_iff, represents.members task.item.1 task.item.2]
  constructor
  · rintro ⟨⟨key, held⟩, last, admitted⟩
    rw [key] at last
    exact ⟨key, held, last, admitted⟩
  · rintro ⟨key, held, last, admitted⟩
    refine ⟨⟨key, held⟩, ?_, admitted⟩
    rw [key]
    exact last

theorem mem_selection_iff (represents : registry.Represents holding) (outcome : Outcome)
    (handler : Handler) :
    handler ∈ selection registry outcome ↔ Selected holding outcome handler := by
  rw [selection, List.mem_map]
  constructor
  · rintro ⟨task, member, same⟩
    subst same
    have due := (represents.mem_tasks_iff outcome task).mp member
    exact ⟨due.held, (outcome.lastMatching?_isSome_iff _).mp ⟨_, due.last⟩, due.admitted⟩
  · rintro ⟨registered, obliged, admitted⟩
    obtain ⟨obligation, last⟩ := (outcome.lastMatching?_isSome_iff _).mpr obliged
    refine ⟨⟨(.ofHandler handler, handler), obligation⟩, ?_, rfl⟩
    rw [represents.mem_tasks_iff]
    exact ⟨rfl, registered, last, admitted⟩

theorem selection_pairwise (represents : registry.Represents holding) (outcome : Outcome) :
    (selection registry outcome).Pairwise Handler.Precedes := by
  rw [selection, List.pairwise_map, tasks, List.pairwise_filterMap]
  refine represents.ascending.imp_of_mem ?_
  intro a b memberA memberB before taskA foundA taskB foundB
  obtain ⟨_, -, rfl⟩ := Option.map_eq_some_iff.mp foundA
  obtain ⟨_, -, rfl⟩ := Option.map_eq_some_iff.mp foundB
  have keyA := ((represents.members a.1 a.2).mp memberA).1
  have keyB := ((represents.members b.1 b.2).mp memberB).1
  rw [keyA, keyB, HandlerKey.before_ofHandler_iff] at before
  exact before

theorem process_follows (represents : registry.Represents holding) (request : Request)
    (outcome : Outcome) :
    Follows request outcome (selection registry outcome) (registry.process request outcome) where
  given := by
    intro call member
    have called := walk_calls_prefix outcome.effective request outcome registry.ordered
    obtain ⟨task, member, same⟩ := List.mem_map.mp (called.subset member)
    rw [← same]
    exact ((represents.mem_tasks_iff outcome task).mp member).last
  completed := by
    intro succeed
    have fulfilled : ∀ task ∈ tasks outcome.effective outcome.decision registry.ordered,
        task.Fulfilled request outcome := by
      intro task member
      have due := (represents.mem_tasks_iff outcome task).mp member
      exact succeed task.item.2 (List.mem_map_of_mem member) task.obligation due.last
    rw [process, walk_of_fulfilled outcome.effective request outcome registry.ordered fulfilled]
    constructor
    · rw [List.map_map]
      rfl
    · have sameIds : (tasks outcome.effective outcome.decision registry.ordered).map Task.id =
          (selection registry outcome).map Handler.obligationId := by
        rw [selection, List.map_map]
        apply List.map_congr_left
        intro task member
        exact ((represents.mem_tasks_iff outcome task).mp member).id_eq
      rw [← sameIds]
      rfl
  aborted := by
    intro earlier failing later obligation fault split succeed last fails
    obtain ⟨tasksBefore, others, tasksSplit, before, rest⟩ := List.map_eq_append_iff.mp split
    obtain ⟨task, tasksAfter, othersSplit, taskHandler, -⟩ := List.map_eq_cons_iff.mp rest
    rw [othersSplit] at tasksSplit
    have dueOf : ∀ other ∈ tasksBefore ++ task :: tasksAfter, Due holding outcome other := by
      intro other member
      rw [← tasksSplit] at member
      exact (represents.mem_tasks_iff outcome other).mp member
    have due := dueOf task (by simp)
    have sameObligation : task.obligation = obligation := by
      have given := due.last
      rw [taskHandler, last] at given
      exact (Option.some.inj given).symm
    have fulfilled : ∀ other ∈ tasksBefore, other.Fulfilled request outcome := by
      intro other member
      have member' : other.item.2 ∈ earlier := before ▸ List.mem_map_of_mem member
      exact succeed other.item.2 member' other.obligation (dueOf other (by simp [member])).last
    have errs : task.run request outcome = .error fault := by
      have sameId : task.item.1.obligationId = failing.obligationId := taskHandler ▸ due.id_eq
      rw [Task.run, Handler.run, taskHandler, sameObligation, sameId]
      rcases fails with failed | ⟨panicked, same⟩
      · rw [failed]
      · rw [panicked, same]
    rw [process, walk_of_failure outcome.effective request outcome registry.ordered tasksBefore
      tasksAfter task fault tasksSplit fulfilled errs]
    constructor
    · rw [← before, ← taskHandler, List.map_map, List.map_append]
      rfl
    · rfl

theorem ordered_eq {other : HandlerRegistry} (represents : registry.Represents holding)
    (represents' : other.Represents holding) : registry.ordered = other.ordered := by
  have sameMembers : registry.ordered.Perm other.ordered := by
    rw [List.perm_ext_iff_of_nodup represents.ascending.nodup represents'.ascending.nodup]
    intro item
    exact (represents.members item.1 item.2).trans (represents'.members item.1 item.2).symm
  refine sameMembers.eq_of_pairwise ?_ represents.ascending represents'.ascending
  intro a b _ _ before after
  exact absurd (HandlerKey.before_trans before after) (HandlerKey.not_before_self _)

end Represents

/-! ## What the answer depends on -/

/-- An outcome matters to handlers that do not look at it only for its decision and the obligation
of each identifier. -/
theorem walk_congr (request : Request) (outcome other : Outcome)
    (items : List (HandlerKey × Handler)) (decision : other.decision = outcome.decision)
    (last : ∀ obligationId, other.lastMatching? obligationId = outcome.lastMatching? obligationId)
    (unaware : ∀ item ∈ items, ∀ obligation,
      item.2.apply request other obligation = item.2.apply request outcome obligation) :
    walk other.effective request other items = walk outcome.effective request outcome items := by
  induction items with
  | nil => rfl
  | cons item rest ih =>
      have later := ih fun item member => unaware item (List.mem_cons_of_mem _ member)
      have sameTask : task? other.effective other.decision item =
          task? outcome.effective outcome.decision item := by
        rw [task?, task?, other.effective_get?, outcome.effective_get?, last, decision]
      have sameRun : ∀ obligation,
          item.2.run item.1.obligationId request other obligation =
            item.2.run item.1.obligationId request outcome obligation := by
        intro obligation
        rw [Handler.run, Handler.run, unaware item (by simp)]
      simp only [walk, sameTask, sameRun, later]

end HandlerRegistry

theorem find?_eq_of_perm {handlers handlers' : List Handler} (perm : handlers.Perm handlers')
    (distinct : (handlers.map Handler.obligationId).Nodup) (obligationId : String) :
    handlers.find? (fun handler => handler.obligationId = obligationId) =
      handlers'.find? (fun handler => handler.obligationId = obligationId) := by
  induction perm with
  | nil => rfl
  | cons handler _ ih =>
      rw [List.find?_cons, List.find?_cons, ih (List.nodup_cons.mp distinct).2]
  | swap a b rest =>
      have different : b.obligationId ≠ a.obligationId := by
        intro same
        exact (List.nodup_cons.mp distinct).1 (by simp [same])
      by_cases first : b.obligationId = obligationId
      · have second : ¬ a.obligationId = obligationId := fun h => different (first.trans h.symm)
        simp [first, second]
      · simp [List.find?_cons, first]
  | trans first _ ih ih' =>
      exact (ih distinct).trans (ih' (((first.map _).nodup_iff).mp distinct))

theorem Holding.foldl_register (handlers : List Handler) (holding : Holding)
    (obligationId : String) :
    (handlers.map RegistryAction.register).foldl Holding.act holding obligationId =
      (holding obligationId).or
        (handlers.find? fun handler => handler.obligationId = obligationId) := by
  induction handlers generalizing holding with
  | nil => simp
  | cons handler rest ih =>
      rw [List.map_cons, List.foldl_cons, ih, List.find?_cons]
      by_cases sameId : handler.obligationId = obligationId
      · subst sameId
        cases held : holding handler.obligationId <;> simp [Holding.act, held]
      · have untouched : holding.act (.register handler) obligationId = holding obligationId := by
          cases held : holding handler.obligationId with
          | none => simp [Holding.act, held, Function.update_of_ne (Ne.symm sameId)]
          | some other => simp [Holding.act, held]
        simp [untouched, sameId]

theorem Holding.after_register_perm {handlers handlers' : List Handler}
    (perm : handlers.Perm handlers') (distinct : (handlers.map Handler.obligationId).Nodup) :
    Holding.after (handlers.map .register) = Holding.after (handlers'.map .register) := by
  funext obligationId
  rw [Holding.after, Holding.after, Holding.foldl_register, Holding.foldl_register,
    find?_eq_of_perm perm distinct]

/-- A handler answers by the request and the obligation alone. -/
def Handler.Unaware (handler : Handler) : Prop :=
  ∀ request outcome other obligation,
    handler.apply request outcome obligation = handler.apply request other obligation

/-- However a registry came about, it runs the selected handlers in their order, each with the last
obligation of its identifier, until one does not succeed.  For handlers that go by the request and
their obligation, neither the order of registration nor that of the obligations matters. -/
theorem process_selects_in_order (actions : List RegistryAction) (request : Request)
    (outcome : Outcome) :
    (∃ selection : List Handler, selection.Pairwise Handler.Precedes ∧ selection.Nodup ∧
      (∀ handler, handler ∈ selection ↔ Selected (Holding.after actions) outcome handler) ∧
      Follows request outcome selection
        ((HandlerRegistry.after actions).process request outcome)) ∧
    (∀ actions' outcome',
      Holding.after actions' = Holding.after actions →
      outcome'.decision = outcome.decision →
      (∀ obligationId,
        outcome'.lastMatching? obligationId = outcome.lastMatching? obligationId) →
      (∀ obligationId handler,
        Holding.after actions obligationId = some handler → handler.Unaware) →
      (HandlerRegistry.after actions').process request outcome' =
        (HandlerRegistry.after actions).process request outcome) ∧
    ∀ handlers handlers' : List Handler,
      handlers.Perm handlers' → (handlers.map Handler.obligationId).Nodup →
      (HandlerRegistry.after (handlers.map .register)).process request outcome =
        (HandlerRegistry.after (handlers'.map .register)).process request outcome := by
  have represents := HandlerRegistry.after_represents actions
  have ordered := represents.selection_pairwise outcome
  refine ⟨⟨HandlerRegistry.selection (.after actions) outcome, ordered, ordered.imp ?_,
    represents.mem_selection_iff outcome, represents.process_follows request outcome⟩, ?_, ?_⟩
  · intro a b earlier same
    subst same
    exact a.not_precedes_self earlier
  · intro actions' outcome' sameHandlers decision last unaware
    have represents' := HandlerRegistry.after_represents actions'
    rw [sameHandlers] at represents'
    rw [HandlerRegistry.process, HandlerRegistry.process, represents'.ordered_eq represents]
    apply HandlerRegistry.walk_congr request outcome outcome' _ decision last
    intro item member obligation
    have held := ((represents.members item.1 item.2).mp member).2
    exact unaware _ item.2 held request outcome' outcome obligation
  · intro handlers handlers' perm distinct
    have represents := HandlerRegistry.after_represents (handlers.map .register)
    have represents' := HandlerRegistry.after_represents (handlers'.map .register)
    rw [Holding.after_register_perm perm distinct] at represents
    rw [HandlerRegistry.process, HandlerRegistry.process, represents.ordered_eq represents']

namespace SampleSelection

def mailer : Handler :=
  ⟨"mailer", "mail", 5, some .permit, fun _ _ _ => .fulfilled⟩

def logger : Handler :=
  ⟨"logger", "log", -1, none, fun _ _ _ => .fulfilled⟩

/-- Obligations with two for the mail, of which the last counts. -/
def outcome : Outcome :=
  .new .permit [⟨"mail", .permit, .empty⟩, ⟨"log", .deny, .empty⟩, ⟨"log", .permit, .empty⟩,
    ⟨"mail", .permit, Keyed.empty.insert ("to", "desk")⟩] none

def rearranged : Outcome :=
  .new .permit [⟨"log", .permit, .empty⟩, ⟨"mail", .permit, .empty⟩,
    ⟨"mail", .permit, Keyed.empty.insert ("to", "desk")⟩] none

end SampleSelection

open SampleSelection in
/-- The log is written before the mail is sent, whichever was registered or is listed first. -/
theorem log_before_mail :
    (((HandlerRegistry.after [.register mailer, .register logger]).process (.blank "r")
        outcome).fulfilled = ["log", "mail"]) ∧
      (HandlerRegistry.after [.register logger, .register mailer]).process (.blank "r")
          rearranged =
        (HandlerRegistry.after [.register mailer, .register logger]).process (.blank "r")
          outcome := by
  obtain ⟨-, depends, -⟩ :=
    process_selects_in_order [.register mailer, .register logger] (.blank "r") outcome
  refine ⟨by decide, depends [.register logger, .register mailer] rearranged ?_ rfl ?_ ?_⟩
  · exact (Holding.after_register_perm (List.Perm.swap mailer logger []) (by decide))
  · intro obligationId
    rw [Outcome.lastMatching?, Outcome.lastMatching?]
    by_cases log : "log" = obligationId
    · subst log
      decide
    · by_cases mail : "mail" = obligationId
      · subst mail
        decide
      · simp [outcome, rearranged, Outcome.new, log, mail]
  · intro obligationId handler held
    have registered : handler = logger ∨ handler = mailer := by
      have first := Holding.foldl_register [mailer, logger] (fun _ => none) obligationId
      rw [Option.none_or] at first
      have member := List.mem_of_find?_eq_some (first.symm.trans held)
      simpa [or_comm] using member
    rcases registered with rfl | rfl <;> exact fun _ _ _ _ => rfl

end DecisionPoint
