import DecisionPoint.Obligation.Registry

/-!
# The walk over the handlers

The walk calls the handlers that have something to fulfil, in order, and stops at the first that
does not succeed.  The tasks of a walk are known before it begins; the main statements say what it
does with them when all succeed and when one fails.
-/

set_option autoImplicit false

namespace DecisionPoint

theorem Handler.run_eq_ok_iff (handler : Handler) (registeredId : String) (request : Request)
    (outcome : Outcome) (obligation : Obligation) :
    handler.run registeredId request outcome obligation = .ok () ↔
      handler.apply request outcome obligation = .fulfilled := by
  unfold Handler.run
  cases handler.apply request outcome obligation <;> simp

namespace HandlerRegistry

/-- A registered handler with the obligation that it is to fulfil. -/
structure Task where
  item : HandlerKey × Handler
  obligation : Obligation

namespace Task

def Fulfilled (request : Request) (outcome : Outcome) (task : Task) : Prop :=
  task.item.2.apply request outcome task.obligation = .fulfilled

/-- What the handler comes to, under the identifier at which it is registered. -/
def run (request : Request) (outcome : Outcome) (task : Task) : Except ObligationFault Unit :=
  task.item.2.run task.item.1.obligationId request outcome task.obligation

def call (task : Task) : Handler × Obligation :=
  (task.item.2, task.obligation)

def id (task : Task) : String :=
  task.item.1.obligationId

theorem run_eq_ok_iff (request : Request) (outcome : Outcome) (task : Task) :
    task.run request outcome = .ok () ↔ task.Fulfilled request outcome :=
  Handler.run_eq_ok_iff _ _ _ _ _

end Task

def tasks (effective : Keyed Obligation.id) (decision : Decision)
    (items : List (HandlerKey × Handler)) : List Task :=
  items.filterMap fun item => (task? effective decision item).map fun obligation =>
    ⟨item, obligation⟩

section Walk

variable (effective : Keyed Obligation.id) (request : Request) (outcome : Outcome)

theorem tasks_cons_of_none (item : HandlerKey × Handler) (rest : List (HandlerKey × Handler))
    (idle : task? effective outcome.decision item = none) :
    tasks effective outcome.decision (item :: rest) = tasks effective outcome.decision rest := by
  simp [tasks, idle]

theorem tasks_cons_of_some (item : HandlerKey × Handler) (rest : List (HandlerKey × Handler))
    (obligation : Obligation) (due : task? effective outcome.decision item = some obligation) :
    tasks effective outcome.decision (item :: rest) =
      ⟨item, obligation⟩ :: tasks effective outcome.decision rest := by
  simp [tasks, due]

/-- When all tasks succeed, all are carried out in order. -/
theorem walk_of_fulfilled (items : List (HandlerKey × Handler))
    (fulfilled : ∀ task ∈ tasks effective outcome.decision items,
      task.Fulfilled request outcome) :
    walk effective request outcome items =
      ⟨(tasks effective outcome.decision items).map Task.call,
        (tasks effective outcome.decision items).map Task.id, none⟩ := by
  induction items with
  | nil => rfl
  | cons item rest ih =>
      cases due : task? effective outcome.decision item with
      | none =>
          rw [tasks_cons_of_none effective outcome item rest due] at fulfilled ⊢
          simp only [walk, due]
          exact ih fulfilled
      | some obligation =>
          rw [tasks_cons_of_some effective outcome item rest obligation due] at fulfilled ⊢
          have first : item.2.run item.1.obligationId request outcome obligation = .ok () :=
            (Task.run_eq_ok_iff request outcome ⟨item, obligation⟩).mpr
              (fulfilled ⟨item, obligation⟩ (by simp))
          have others := ih fun task member => fulfilled task (List.mem_cons_of_mem _ member)
          simp only [walk, due, first, others]
          rfl

theorem walk_of_failure (items : List (HandlerKey × Handler)) (earlier later : List Task)
    (failing : Task) (fault : ObligationFault)
    (split : tasks effective outcome.decision items = earlier ++ failing :: later)
    (fulfilled : ∀ task ∈ earlier, task.Fulfilled request outcome)
    (fails : failing.run request outcome = .error fault) :
    walk effective request outcome items =
      ⟨(earlier ++ [failing]).map Task.call, earlier.map Task.id, some fault⟩ := by
  induction items generalizing earlier with
  | nil => simp [tasks] at split
  | cons item rest ih =>
      cases due : task? effective outcome.decision item with
      | none =>
          rw [tasks_cons_of_none effective outcome item rest due] at split
          simp only [walk, due]
          exact ih earlier split fulfilled
      | some obligation =>
          rw [tasks_cons_of_some effective outcome item rest obligation due] at split
          cases earlier with
          | nil =>
              obtain ⟨same, -⟩ := List.cons.inj split
              subst failing
              have stops : item.2.run item.1.obligationId request outcome obligation =
                  .error fault := fails
              simp only [walk, due, stops]
              rfl
          | cons first others =>
              obtain ⟨same, splitRest⟩ := List.cons.inj split
              subst first
              have goesOn : item.2.run item.1.obligationId request outcome obligation = .ok () :=
                (Task.run_eq_ok_iff request outcome ⟨item, obligation⟩).mpr
                  (fulfilled ⟨item, obligation⟩ (by simp))
              have remaining := ih others splitRest fun task member =>
                fulfilled task (List.mem_cons_of_mem _ member)
              simp only [walk, due, goesOn, remaining]
              rfl

theorem walk_calls_prefix (items : List (HandlerKey × Handler)) :
    (walk effective request outcome items).calls <+:
      (tasks effective outcome.decision items).map Task.call := by
  induction items with
  | nil => exact List.nil_prefix
  | cons item rest ih =>
      cases due : task? effective outcome.decision item with
      | none =>
          rw [tasks_cons_of_none effective outcome item rest due]
          simpa only [walk, due] using ih
      | some obligation =>
          rw [tasks_cons_of_some effective outcome item rest obligation due, List.map_cons]
          cases ran : item.2.run item.1.obligationId request outcome obligation with
          | error fault =>
              simp only [walk, due, ran]
              exact List.cons_prefix_cons.mpr ⟨rfl, List.nil_prefix⟩
          | ok _ =>
              simp only [walk, due, ran]
              exact List.cons_prefix_cons.mpr ⟨rfl, ih⟩

theorem walk_fault_eq_none_iff (items : List (HandlerKey × Handler)) :
    (walk effective request outcome items).fault = none ↔
      ∀ call ∈ (walk effective request outcome items).calls,
        call.1.apply request outcome call.2 = .fulfilled := by
  induction items with
  | nil => simp [walk, Processing.nothing]
  | cons item rest ih =>
      cases due : task? effective outcome.decision item with
      | none => simpa only [walk, due] using ih
      | some obligation =>
          have answer := Handler.run_eq_ok_iff item.2 item.1.obligationId request outcome obligation
          cases ran : item.2.run item.1.obligationId request outcome obligation with
          | error fault =>
              have failed : item.2.apply request outcome obligation ≠ .fulfilled := by
                intro succeeded
                rw [answer.mpr succeeded] at ran
                cases ran
              simp [walk, due, ran, failed]
          | ok _ =>
              have succeeded := answer.mp ran
              simp [walk, due, ran, succeeded, ih]

theorem id_of_task? (decision : Decision) (item : HandlerKey × Handler) (obligation : Obligation)
    (due : task? effective decision item = some obligation) :
    obligation.id = item.1.obligationId := by
  unfold task? at due
  split at due
  · cases due
  · next found held =>
      split at due
      · cases due
        simpa using List.find?_some held
      · cases due

theorem count_fulfilled_walk (items : List (HandlerKey × Handler)) (id : String) :
    (walk effective request outcome items).fulfilled.count id =
      (walk effective request outcome items).calls.countP fun call =>
        call.2.id = id ∧ call.1.apply request outcome call.2 = .fulfilled := by
  induction items with
  | nil => rfl
  | cons item rest ih =>
      cases due : task? effective outcome.decision item with
      | none => simpa only [walk, due] using ih
      | some obligation =>
          have same := id_of_task? effective outcome.decision item obligation due
          have answer := Handler.run_eq_ok_iff item.2 item.1.obligationId request outcome obligation
          cases ran : item.2.run item.1.obligationId request outcome obligation with
          | error fault =>
              have failed : item.2.apply request outcome obligation ≠ .fulfilled := by
                intro succeeded
                rw [answer.mpr succeeded] at ran
                cases ran
              simp [walk, due, ran, failed]
          | ok _ =>
              have succeeded := answer.mp ran
              simp [walk, due, ran, succeeded, ih, same, List.count_cons, List.countP_cons]

end Walk

theorem process_fault_eq_none_iff (registry : HandlerRegistry) (request : Request)
    (outcome : Outcome) :
    (registry.process request outcome).fault = none ↔
      ∀ call ∈ (registry.process request outcome).calls,
        call.1.apply request outcome call.2 = .fulfilled :=
  walk_fault_eq_none_iff outcome.effective request outcome registry.ordered

end HandlerRegistry

end DecisionPoint
