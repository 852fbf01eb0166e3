import DecisionPoint.Proofs.Admission.Account
import Mathlib.Data.List.Perm.Subperm

/-!
# What is handed in

Requests are handed in under tickets, and then they are taken and finished.  What some deeds hand in
can be told from the queues before and after them.
-/

set_option autoImplicit false

namespace DecisionPoint

/-! ## Tickets in deeds -/

def ticketed (number : Nat) (job : Job) : Ticket × Request := (⟨number, job.number⟩, job.request)

def Deed.ticketed? (about : Dealing → Option Job) : Deed → Option (Ticket × Request)
  | dealt number dealing => (about dealing).map (ticketed number)
  | _ => none

def handedIn (deeds : List Deed) : List (Ticket × Request) :=
  deeds.filterMap (Deed.ticketed? Dealing.accepted?)

def takenUp (deeds : List Deed) : List (Ticket × Request) :=
  deeds.filterMap (Deed.ticketed? Dealing.took?)

def finishedIn (deeds : List Deed) : List (Ticket × Request) :=
  deeds.filterMap (Deed.ticketed? fun dealing => dealing.finished?.map Prod.fst)

def partOf (number : Nat) (items : List (Ticket × Request)) : List (Ticket × Request) :=
  items.filter fun item => item.1.shell = number

theorem partOf_ticketed (about : Dealing → Option Job) (number : Nat) (deeds : List Deed) :
    partOf number (deeds.filterMap (Deed.ticketed? about)) =
      ((dealingsAt number deeds).filterMap about).map (ticketed number) := by
  rw [partOf, List.filter_filterMap, dealingsAt, List.filterMap_filterMap, List.map_filterMap]
  refine List.filterMap_congr ?_
  intro deed _
  cases deed with
  | dealt shell dealing =>
      by_cases here : shell = number
      · subst here
        cases job : about dealing <;> simp [Deed.ticketed?, Deed.dealing?, ticketed, job]
      · cases job : about dealing <;> simp [Deed.ticketed?, Deed.dealing?, ticketed, job, here]
  | _ => rfl

theorem handedIn_append (deeds later : List Deed) :
    handedIn (deeds ++ later) = handedIn deeds ++ handedIn later :=
  List.filterMap_append

theorem mem_handedIn {ticket : Ticket} {request : Request} {deeds : List Deed} :
    (ticket, request) ∈ handedIn deeds ↔
      .dealt ticket.shell (.accepted ⟨ticket.number, request⟩) ∈ deeds := by
  constructor
  · intro handed
    obtain ⟨deed, mem, here⟩ := List.mem_filterMap.mp handed
    cases deed with
    | dealt number dealing =>
        cases dealing with
        | accepted job =>
            cases here
            exact mem
        | _ => cases here
    | _ => cases here
  · intro accepted
    exact List.mem_filterMap.mpr ⟨_, accepted, rfl⟩

theorem dealt_of_finished {number : Nat} {job : Job} {result : FinalResult} {deeds : List Deed}
    (finished : (job, result) ∈ jobsFinished (dealingsAt number deeds)) :
    ∃ worker, .dealt number (.finished worker job result) ∈ deeds := by
  obtain ⟨dealing, mem, here⟩ := List.mem_filterMap.mp finished
  cases dealing with
  | finished worker job' result' =>
      cases here
      exact ⟨worker, (mem_dealingsAt number).mp mem⟩
  | _ => cases here

theorem finished_append {number : Nat} {job : Job} {result : FinalResult} {deeds : List Deed}
    (finished : (job, result) ∈ jobsFinished (dealingsAt number deeds)) (later : List Deed) :
    (job, result) ∈ jobsFinished (dealingsAt number (deeds ++ later)) := by
  rw [dealingsAt_append, jobsFinished, List.filterMap_append]
  exact List.mem_append_left _ finished

theorem partOf_handedIn (number : Nat) (deeds : List Deed) :
    partOf number (handedIn deeds) =
      (jobsAccepted (dealingsAt number deeds)).map (ticketed number) :=
  partOf_ticketed Dealing.accepted? number deeds

theorem partOf_takenUp (number : Nat) (deeds : List Deed) :
    partOf number (takenUp deeds) = (jobsTaken (dealingsAt number deeds)).map (ticketed number) :=
  partOf_ticketed Dealing.took? number deeds

theorem partOf_finishedIn (number : Nat) (deeds : List Deed) :
    partOf number (finishedIn deeds) =
      ((jobsFinished (dealingsAt number deeds)).map Prod.fst).map (ticketed number) := by
  simp only [finishedIn, partOf_ticketed, jobsFinished, List.map_filterMap, Option.map_map]

theorem mem_partOf {number : Nat} {item : Ticket × Request} {items : List (Ticket × Request)} :
    item ∈ partOf number items ↔ item ∈ items ∧ item.1.shell = number := by
  simp [partOf]

theorem filter_ticket {items : List (Ticket × Request)} (distinct : (items.map Prod.fst).Nodup)
    {item : Ticket × Request} (mem : item ∈ items) :
    items.filter (fun other => other.1 = item.1) = [item] := by
  induction items with
  | nil => cases mem
  | cons first rest ih =>
      rw [List.map_cons, List.nodup_cons] at distinct
      rcases List.mem_cons.mp mem with rfl | later
      · rw [List.filter_cons_of_pos (by simp), List.filter_eq_nil_iff.mpr]
        intro other mem same
        exact distinct.1 (List.mem_map.mpr ⟨other, mem, of_decide_eq_true same⟩)
      · have differs : first.1 ≠ item.1 := by
          intro same
          exact distinct.1 (same ▸ List.mem_map.mpr ⟨item, later, rfl⟩)
        rw [List.filter_cons_of_neg (by simpa using differs), ih distinct.2 later]

theorem length_le_of_parts {items others : List (Ticket × Request)}
    (parts : ∀ number, (partOf number items).length ≤ (partOf number others).length) :
    items.length ≤ others.length := by
  have counts (number : Nat) (items : List (Ticket × Request)) :
      (items.map (·.1.shell)).count number = (partOf number items).length := by
    rw [List.count, List.countP_map, List.countP_eq_length_filter, partOf]
    rfl
  have fewer : (items.map (·.1.shell)).Subperm (others.map (·.1.shell)) := by
    rw [List.subperm_ext_iff]
    intro number _
    rw [counts, counts]
    exact parts number
  simpa using fewer.length_le

theorem eq_of_parts {items others : List (Ticket × Request)}
    (parts : ∀ number, partOf number items = partOf number others) (few : others.length ≤ 1) :
    items = others := by
  have same : items.length = others.length :=
    Nat.le_antisymm (length_le_of_parts fun number => by simp [parts])
      (length_le_of_parts fun number => by simp [parts])
  match items, others, same with
  | [], [], _ => rfl
  | [item], [other], _ =>
      have here := parts item.1.shell
      by_cases there : other.1.shell = item.1.shell
      · simpa [partOf, there] using here
      · simp [partOf, there] at here
  | _ :: _ :: _, [_], same => cases same
  | _, _ :: _ :: _, _ => simp at few

/-! ## What the queues tell -/

namespace Service

def queueAt (service : Service) (number : Nat) : List Job :=
  ((service.shell? number).map Shell.queue).getD []

theorem queueAt_dealt {service after : Service} {number : Nat} {shell shell' : Shell}
    {dealing : Dealing} (found : service.shell? number = some shell)
    (queue : shell'.queue = shell.queue ++ dealing.accepted?.toList)
    (shells : ∀ other, after.shell? other =
      if other = number then some shell' else service.shell? other) (other : Nat) :
    after.queueAt other =
      service.queueAt other ++ jobsAccepted (dealingsAt other [.dealt number dealing]) := by
  rw [queueAt, shells]
  by_cases here : other = number
  · subst here
    rw [dealingsAt_dealt]
    cases job : dealing.accepted? <;> simp [queueAt, found, queue, jobsAccepted, job]
  · rw [if_neg here, dealingsAt_other number (Ne.symm here)]
    exact (List.append_nil _).symm

/-- Whoever is no worker lets nothing disappear from a queue, and what is new there was accepted. -/
theorem Does.queues {governing : Bool} {before after : Service} {deeds : List Deed}
    (does : Does governing before deeds after) (number : Nat) :
    after.queueAt number = before.queueAt number ++ jobsAccepted (dealingsAt number deeds) := by
  induction does with
  | rests rests => simp [queueAt, shell?, rests.shells, jobsAccepted]
  | governs governs => simp [queueAt, shell?, governs.shells, jobsAccepted]
  | accepts admits found answer =>
      obtain ⟨-, -, rfl⟩ := (Shell.submit_eq_ok_iff _ _ _).mp answer
      exact queueAt_dealt found rfl (shell?_withShell _ found _) number
  | isBusy admits found answer =>
      exact queueAt_dealt found (List.append_nil _).symm (shell?_withShell _ found _) number
  | @isClosed governing service other shell request admits found answer =>
      refine queueAt_dealt found (List.append_nil _).symm ?_ number
      intro other'
      split
      · next same => exact same ▸ found
      · rfl
  | turnsAway shut => simp [jobsAccepted, dealingsAt, Deed.dealing?]
  | leaves found =>
      exact queueAt_dealt found (List.append_nil _).symm (shell?_withShell _ found _) number
  | @opens service shell opens =>
      -- A shell that opens has an empty queue.
      have empty : shell.queue = [] := by
        unfold Shell.start at opens
        split at opens
        · cases opens
        · split at opens <;> cases opens
          rfl
      simp only [queueAt, shell?, List.lookup_append, List.lookup_cons, List.lookup_nil]
      cases service.shells.lookup number with
      | some held => exact (List.append_nil _).symm
      | none =>
          cases number == service.nextNumber with
          | true => exact empty
          | false => rfl
  | closes admits found =>
      exact queueAt_dealt found (List.append_nil _).symm (shell?_withShell _ found _) number
  | forgets shut => simp [queueAt, shell?, jobsAccepted]
  | followed _ _ ih ih' =>
      rw [ih', ih, dealingsAt_append, jobsAccepted, jobsAccepted, jobsAccepted,
        List.filterMap_append, List.append_assoc]

/-- What is handed in between two states can be told from them, if it is not more than one
request. -/
theorem Does.handedIn_eq {governing governing' : Bool} {before after : Service}
    {deeds others : List Deed} (does : Does governing before deeds after)
    (does' : Does governing' before others after) (few : (handedIn others).length ≤ 1) :
    handedIn deeds = handedIn others := by
  refine eq_of_parts ?_ few
  intro number
  have same := (does.queues number).symm.trans (does'.queues number)
  rw [partOf_handedIn, partOf_handedIn, List.append_cancel_left same]

/-- Nothing waits, and nobody is at work. -/
def IsIdle (service : Service) : Prop :=
  ∀ item ∈ service.shells, item.2.queue = [] ∧ item.2.running = []

instance (service : Service) : Decidable service.IsIdle :=
  inferInstanceAs (Decidable (∀ item ∈ service.shells, item.2.queue = [] ∧ item.2.running = []))

end Service

/-! ## What becomes of it -/

namespace Accounts

variable {options : ServiceOptions} {deeds : List Deed} {service : Service}
  {activities : List Activity}

/-- What was accepted was taken or waits, and what was taken has finished or is at work. -/
theorem shares (accounts : Accounts options deeds service activities) (number : Nat) :
    ∃ waiting working, jobsAccepted (dealingsAt number deeds) =
        jobsTaken (dealingsAt number deeds) ++ waiting ∧
      (jobsTaken (dealingsAt number deeds)).Perm
        ((jobsFinished (dealingsAt number deeds)).map Prod.fst ++ working) ∧
      ((jobsAccepted (dealingsAt number deeds)).map Job.number).Nodup ∧
      (service.IsIdle → waiting = [] ∧ working = []) := by
  cases found : service.shell? number with
  | none =>
      rw [(accounts.elsewhere number found).1]
      exact ⟨[], [], rfl, .nil, .nil, fun _ => ⟨rfl, rfl⟩⟩
  | some shell =>
      obtain ⟨queues, -, works, -⟩ := (accounts.shells number shell found).1.conserves
      refine ⟨shell.queue, shell.running.map Prod.snd, queues.inOrder, works.taken,
        works.distinct.sublist works.accepted, ?_⟩
      intro idle
      obtain ⟨before, after, split, -⟩ := List.lookup_eq_some_iff.mp found
      obtain ⟨queue, running⟩ := idle (number, shell) (by simp [split])
      exact ⟨queue, by rw [running, List.map_nil]⟩

theorem length_finishedIn_le (accounts : Accounts options deeds service activities) :
    (finishedIn deeds).length ≤ (handedIn deeds).length := by
  refine length_le_of_parts fun number => ?_
  obtain ⟨waiting, working, accepted, taken, -⟩ := accounts.shares number
  have length := taken.length_eq
  simp only [partOf_finishedIn, partOf_handedIn, accepted, List.length_map, List.length_append]
    at length ⊢
  omega

theorem length_finishedIn_eq (accounts : Accounts options deeds service activities)
    (idle : service.IsIdle) : (finishedIn deeds).length = (handedIn deeds).length := by
  refine Nat.le_antisymm accounts.length_finishedIn_le (length_le_of_parts fun number => ?_)
  obtain ⟨waiting, working, accepted, taken, -, rest⟩ := accounts.shares number
  obtain ⟨rfl, rfl⟩ := rest idle
  have length := taken.length_eq
  simp only [partOf_finishedIn, partOf_handedIn, accepted, List.length_map, List.length_append,
    List.length_nil]
    at length ⊢
  omega

theorem takenUp_subset (accounts : Accounts options deeds service activities) :
    takenUp deeds ⊆ handedIn deeds := by
  intro item mem
  obtain ⟨waiting, working, accepted, -⟩ := accounts.shares item.1.shell
  have here : item ∈ partOf item.1.shell (takenUp deeds) := mem_partOf.mpr ⟨mem, rfl⟩
  rw [partOf_takenUp] at here
  obtain ⟨job, taken, same⟩ := List.mem_map.mp here
  have there : item ∈ partOf item.1.shell (handedIn deeds) := by
    rw [partOf_handedIn, accepted]
    exact List.mem_map.mpr ⟨job, List.mem_append_left _ taken, same⟩
  exact (mem_partOf.mp there).1

theorem takenUp_of_finished (accounts : Accounts options deeds service activities)
    {ticket : Ticket} {request : Request} {result : FinalResult}
    (finished : (⟨ticket.number, request⟩, result) ∈ jobsFinished (dealingsAt ticket.shell deeds)) :
    (ticket, request) ∈ takenUp deeds := by
  obtain ⟨waiting, working, -, taken, -⟩ := accounts.shares ticket.shell
  have here : (ticket, request) ∈ partOf ticket.shell (takenUp deeds) := by
    rw [partOf_takenUp]
    refine List.mem_map.mpr ⟨⟨ticket.number, request⟩, taken.mem_iff.mpr ?_, rfl⟩
    exact List.mem_append_left _ (List.mem_map.mpr ⟨_, finished, rfl⟩)
  exact (mem_partOf.mp here).1

theorem takenUp_once (accounts : Accounts options deeds service activities) {ticket : Ticket}
    {request : Request} (mem : (ticket, request) ∈ takenUp deeds) :
    (takenUp deeds).filter (fun item => item.1 = ticket) = [(ticket, request)] := by
  obtain ⟨waiting, working, accepted, -, distinct, -⟩ := accounts.shares ticket.shell
  have here : (ticket, request) ∈ partOf ticket.shell (takenUp deeds) := mem_partOf.mpr ⟨mem, rfl⟩
  have own : (takenUp deeds).filter (fun item => item.1 = ticket) =
      (partOf ticket.shell (takenUp deeds)).filter fun item => item.1 = ticket := by
    rw [partOf, List.filter_filter]
    refine List.filter_congr ?_
    intro item _
    by_cases same : item.1 = ticket <;> simp [same]
  rw [own]
  refine filter_ticket ?_ here
  rw [accepted, List.map_append] at distinct
  have apart : Function.Injective (Ticket.mk ticket.shell) := fun _ _ same => (Ticket.mk.inj same).2
  have numbers := distinct.of_append_left.map apart
  rw [partOf_takenUp, List.map_map]
  rw [List.map_map] at numbers
  exact numbers

end Accounts

end DecisionPoint
