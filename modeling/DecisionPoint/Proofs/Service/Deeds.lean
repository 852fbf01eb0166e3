import DecisionPoint.Http.Endpoint
import DecisionPoint.Proofs.Admission.WorkerTurn
import DecisionPoint.Proofs.Policy.Keeping
import DecisionPoint.Proofs.Schedule.World
import DecisionPoint.Service.Lifecycle

/-!
# What is done for requests

`Does` says which dealings with the shells a piece of work consists of.  Starting and stopping open
and close shells; other work leaves them, and all that is recorded of requests, as they are.
-/

set_option autoImplicit false

namespace DecisionPoint

def Call.decided? : Call → Option (PolicySnapshot × Request)
  | decide policy request => some (policy, request)
  | _ => none

def decisions (calls : List Call) : List (PolicySnapshot × Request) :=
  calls.filterMap Call.decided?

theorem decisions_append (calls more : List Call) :
    decisions (calls ++ more) = decisions calls ++ decisions more :=
  List.filterMap_append

def Spawned.isWorker : Spawned → Bool
  | worker _ _ => true
  | loop _ => false

namespace Service

/-- Nothing is done for requests, and what starting and stopping do stays as it is. -/
structure Rests (before after : Service) : Prop where
  options : after.options = before.options
  pipeline : after.pipeline = before.pipeline
  shells : after.shells = before.shells
  admission : after.admission = before.admission
  calls : after.calls = before.calls
  spawned : after.spawned = before.spawned
  stopping : after.stopping = before.stopping
  ended : after.ended = before.ended
  policy : Steady (before.cache, before.journal) (after.cache, after.journal)
  numbers : before.nextNumber ≤ after.nextNumber

/-- Nothing is done for requests. -/
structure Governs (before after : Service) : Prop where
  options : after.options = before.options
  pipeline : after.pipeline = before.pipeline
  shells : after.shells = before.shells
  admission : after.admission = before.admission
  workers : after.spawned.filter Spawned.isWorker = before.spawned.filter Spawned.isWorker
  decisions : decisions after.calls = decisions before.calls
  audit : after.journal.audit = before.journal.audit
  rejections : after.journal.rejections = before.journal.rejections
  numbers : before.nextNumber ≤ after.nextNumber

theorem Rests.governs {before after : Service} (rests : before.Rests after) :
    before.Governs after := by
  refine ⟨rests.options, rests.pipeline, rests.shells, rests.admission, ?_, ?_,
    rests.policy.audit, rests.policy.rejections, rests.numbers⟩
  · rw [rests.spawned]
  · rw [rests.calls]

theorem Rests.refl (service : Service) : service.Rests service :=
  ⟨rfl, rfl, rfl, rfl, rfl, rfl, rfl, rfl, .refl _, Nat.le_refl _⟩

theorem Governs.refl (service : Service) : service.Governs service := (Rests.refl service).governs

theorem Governs.trans {a b c : Service} (first : a.Governs b) (second : b.Governs c) :
    a.Governs c :=
  ⟨second.options.trans first.options, second.pipeline.trans first.pipeline,
    second.shells.trans first.shells, second.admission.trans first.admission,
    second.workers.trans first.workers, second.decisions.trans first.decisions,
    second.audit.trans first.audit,
    second.rejections.trans first.rejections, Nat.le_trans first.numbers second.numbers⟩

/-- What is done for requests in a piece of work; the truth value tells whether it is part of
starting or stopping. -/
inductive Does : Bool → Service → List Deed → Service → Prop where
  | rests {governing : Bool} {before after : Service} (rests : before.Rests after) :
      Does governing before [] after
  | accepts {governing : Bool} {service : Service} {number : Nat} {shell shell' : Shell}
      {request : Request} (admits : service.admission = some number)
      (found : service.shell? number = some shell)
      (answer : shell.submit ⟨service.nextNumber, request⟩ = .ok shell') :
      Does governing service [.dealt number (.accepted ⟨service.nextNumber, request⟩)]
        ({ service with nextNumber := service.nextNumber + 1 }.withShell number shell')
  | isBusy {governing : Bool} {service : Service} {number : Nat} {shell : Shell}
      {request : Request} (admits : service.admission = some number)
      (found : service.shell? number = some shell)
      (answer : shell.submit ⟨service.nextNumber, request⟩ = .error .busy) :
      Does governing service [.dealt number (.refused ⟨service.nextNumber, request⟩ .busy)]
        { ({ service with nextNumber := service.nextNumber + 1 }.withShell number shell.refuse) with
          journal := service.journal.rejected }
  | isClosed {governing : Bool} {service : Service} {number : Nat} {shell : Shell}
      {request : Request} (admits : service.admission = some number)
      (found : service.shell? number = some shell)
      (answer : shell.submit ⟨service.nextNumber, request⟩ = .error .closed) :
      Does governing service [.dealt number (.refused ⟨service.nextNumber, request⟩ .closed)]
        { service with nextNumber := service.nextNumber + 1 }
  | turnsAway {governing : Bool} {service : Service} {request : Request}
      (shut : (service.admission.bind service.shell?) = none) :
      Does governing service [.turnedAway request] service
  | leaves {governing : Bool} {service : Service} {ticket : Ticket} {shell : Shell}
      (found : service.shell? ticket.shell = some shell) :
      Does governing service [.dealt ticket.shell (.left ticket.number)]
        (service.withShell ticket.shell (shell.leave ticket.number))
  | governs {before after : Service} (governs : before.Governs after) : Does true before [] after
  | opens {service : Service} {shell : Shell}
      (opens : Shell.start service.options.admission = .ok shell) :
      Does true service [.opened service.nextNumber]
        { service with
          shells := service.shells ++ [(service.nextNumber, shell)]
          admission := some service.nextNumber
          spawned :=
            service.spawned ++ (List.range shell.alive).map (Spawned.worker service.nextNumber)
          nextNumber := service.nextNumber + 1 }
  | closes {service : Service} {number : Nat} {shell : Shell}
      (admits : service.admission = some number) (found : service.shell? number = some shell) :
      Does true service [.dealt number .closed]
        ({ service with admission := none }.withShell number shell.close)
  | forgets {service : Service} (shut : (service.admission.bind service.shell?) = none) :
      Does true service [] { service with admission := none }
  | followed {governing : Bool} {a b c : Service} {deeds later : List Deed}
      (does : Does governing a deeds b) (does' : Does governing b later c) :
      Does governing a (deeds ++ later) c

theorem Does.refl (governing : Bool) (service : Service) : Does governing service [] service :=
  .rests (.refl service)

theorem Does.after {governing : Bool} {a b c : Service} {deeds : List Deed}
    (does : Does governing a [] b) (does' : Does governing b deeds c) : Does governing a deeds c :=
  does.followed does'

end Service

/-! ## Tickets -/

def Deed.isHanding : Deed → Bool
  | dealt _ (.accepted _) | dealt _ (.left _) => true
  | _ => false

/-- No request is accepted or let go of. -/
def HandsNothing (deeds : List Deed) : Prop := ∀ deed ∈ deeds, deed.isHanding = false

theorem HandsNothing.nil : HandsNothing [] := by
  intro deed mem
  cases mem

theorem HandsNothing.single {deed : Deed} (other : deed.isHanding = false) :
    HandsNothing [deed] := by
  intro deed' mem
  cases List.mem_singleton.mp mem
  exact other

/-- What the holder of some tickets does with tickets: it takes those of requests that it hands in,
and lets go of its own. -/
structure Hands (held : List Ticket) (deeds : List Deed) (held' : List Ticket) : Prop where
  kept : ∀ ticket ∈ held', ticket ∈ held ∨
    ∃ request, .dealt ticket.shell (.accepted ⟨ticket.number, request⟩) ∈ deeds
  own : ∀ ticket : Ticket, .dealt ticket.shell (.left ticket.number) ∈ deeds → ticket ∈ held ∨
    ∃ request, .dealt ticket.shell (.accepted ⟨ticket.number, request⟩) ∈ deeds
  still : ∀ ticket ∈ held', .dealt ticket.shell (.left ticket.number) ∉ deeds

theorem HandsNothing.hands {deeds : List Deed} (nothing : HandsNothing deeds) :
    Hands [] deeds [] := by
  refine ⟨by simp, ?_, by simp⟩
  intro ticket left
  cases nothing _ left

/-- A ticket is held on to, or let go of. -/
def Awaits (ticket : Ticket) (deeds : List Deed) (held' : List Ticket) : Prop :=
  (deeds = [] ∧ held' = [ticket]) ∨
    (deeds ⊆ [.dealt ticket.shell (.left ticket.number)] ∧ held' = [])

theorem Awaits.hands {ticket : Ticket} {deeds : List Deed} {held' : List Ticket}
    (awaits : Awaits ticket deeds held') : Hands [ticket] deeds held' := by
  rcases awaits with ⟨rfl, rfl⟩ | ⟨own, rfl⟩
  · exact ⟨fun _ held => .inl held, by simp, by simp⟩
  · refine ⟨by simp, ?_, by simp⟩
    intro other left
    have same := own left
    simp only [List.mem_singleton, Deed.dealt.injEq, Dealing.left.injEq] at same
    cases other
    cases same.1
    cases same.2
    exact .inl (List.mem_singleton_self _)

theorem Awaits.handsIn {ticket : Ticket} {deeds : List Deed} {held' : List Ticket}
    (request : Request) (awaits : Awaits ticket deeds held') :
    Hands [] (.dealt ticket.shell (.accepted ⟨ticket.number, request⟩) :: deeds) held' := by
  obtain ⟨kept, own, still⟩ := awaits.hands
  have handedIn (other : Ticket) (mem : other ∈ [ticket]) :
      ∃ request', .dealt other.shell (.accepted ⟨other.number, request'⟩) ∈
        Deed.dealt ticket.shell (.accepted ⟨ticket.number, request⟩) :: deeds := by
    cases List.mem_singleton.mp mem
    exact ⟨request, List.mem_cons_self⟩
  refine ⟨?_, ?_, ?_⟩
  · intro other held
    rcases kept other held with mem | ⟨request', accepted⟩
    · exact .inr (handedIn other mem)
    · exact .inr ⟨request', List.mem_cons_of_mem _ accepted⟩
  · intro other left
    have later : .dealt other.shell (.left other.number) ∈ deeds := by simpa using left
    rcases own other later with mem | ⟨request', accepted⟩
    · exact .inr (handedIn other mem)
    · exact .inr ⟨request', List.mem_cons_of_mem _ accepted⟩
  · intro other held left
    exact still other held (by simpa using left)

namespace Service

section Functions

variable (service : Service) (now : Nat) (governing : Bool)

theorem leave_does (ticket : Ticket) :
    ∃ deeds, Does governing service deeds (service.leave ticket) ∧
      deeds ⊆ [.dealt ticket.shell (.left ticket.number)] := by
  unfold leave
  split
  · exact ⟨[], .refl governing service, List.nil_subset _⟩
  · next shell found => exact ⟨_, .leaves found, List.Subset.refl _⟩

theorem collect_does (ticket : Ticket) :
    ∃ deeds, Does governing service deeds (service.collect ticket).1 ∧
      Awaits ticket deeds (service.collect ticket).2.rest := by
  unfold collect
  split
  · obtain ⟨deeds, does, own⟩ := service.leave_does governing ticket
    exact ⟨deeds, does, .inr ⟨own, rfl⟩⟩
  · exact ⟨[], .refl governing service, .inl ⟨rfl, rfl⟩⟩

theorem submit_does (request : Request) :
    (∃ ticket, (service.submit request).2 = .ok ticket ∧
      Does governing service [.dealt ticket.shell (.accepted ⟨ticket.number, request⟩)]
        (service.submit request).1) ∨
    ∃ fault deed, (service.submit request).2 = .error fault ∧ deed.isHanding = false ∧
      Does governing service [deed] (service.submit request).1 := by
  unfold submit
  split
  · next shut =>
      exact .inr ⟨.closed, .turnedAway request, rfl, rfl, .turnsAway (by rw [shut]; rfl)⟩
  · next number admits =>
      split
      · next missing =>
          exact .inr ⟨.closed, .turnedAway request, rfl, rfl,
            .turnsAway (by rw [admits]; exact missing)⟩
      · next shell found =>
          simp only [freshNumber]
          split
          · next shell' answer => exact .inl ⟨_, rfl, .accepts admits found answer⟩
          · next answer => exact .inr ⟨.busy, _, rfl, rfl, .isBusy admits found answer⟩
          · next answer => exact .inr ⟨.closed, _, rfl, rfl, .isClosed admits found answer⟩

/-! ## Starting and stopping -/

theorem called_governs (call : Call) (other : call.decided? = none) :
    service.Governs (service.called [call]) := by
  refine ⟨rfl, rfl, rfl, rfl, rfl, ?_, rfl, rfl, Nat.le_refl _⟩
  simp [called, decisions, other]

theorem rollBack_governs (fault : ServiceFault) (points : List Point) :
    service.Governs (service.rollBack fault points).1 := by
  cases points with
  | nil => exact .refl service
  | cons point later => exact service.called_governs (.stop point) rfl

theorem stopPoints_governs (points : List Point) :
    service.Governs (service.stopPoints points).1 := by
  cases points with
  | nil => exact .refl service
  | cons point later => exact service.called_governs (.stop point) rfl

theorem dismissLoop_governs : service.Governs service.dismissLoop.1 :=
  ⟨rfl, rfl, rfl, rfl, rfl, rfl, rfl, rfl, Nat.le_refl _⟩

theorem startRefresh_governs (service' : Service) (started : service.startRefresh = .ok service') :
    service.Governs service' := by
  simp only [startRefresh, freshNumber] at started
  split at started
  · cases started
  · cases started
    refine ⟨rfl, rfl, rfl, rfl, ?_, rfl, rfl, rfl, Nat.le_succ _⟩
    simp [Spawned.isWorker]

theorem withCache_rests (cache : PolicyCache) (journal : Journal)
    (steady : Steady (service.cache, service.journal) (cache, journal)) :
    service.Rests (service.withCache cache journal) :=
  ⟨rfl, rfl, rfl, rfl, rfl, rfl, rfl, rfl, steady, Nat.le_refl _⟩

theorem openAdmission_does :
    ∃ deeds, Does true service deeds service.openAdmission.1 ∧
      HandsNothing deeds := by
  have dismissed := service.dismissLoop_governs
  unfold openAdmission
  split
  · next shell opens => exact ⟨_, .opens opens, .single rfl⟩
  · generalize service.dismissLoop = run at dismissed ⊢
    split
    · exact ⟨[], .governs dismissed, .nil⟩
    · exact ⟨[], .governs (dismissed.trans (rollBack_governs _ _ _)), .nil⟩

theorem afterGate_does (run : PolicyCache.GateRun)
    (steady : Steady (service.cache, service.journal) (run.1, run.2.1)) :
    ∃ deeds, Does true service deeds (service.afterGate run).1 ∧
      HandsNothing deeds := by
  obtain ⟨cache, journal, progress⟩ := run
  have rests := service.withCache_rests cache journal steady
  cases progress with
  | waiting gate => exact ⟨[], .rests rests, .nil⟩
  | done ready =>
      obtain ⟨deeds, does, own⟩ := (service.withCache cache journal).openAdmission_does
      exact ⟨deeds, .after (.rests rests) does, own⟩

theorem startPoints_does (started later : List Point) :
    ∃ deeds, Does true service deeds (service.startPoints now started later).1 ∧
      HandsNothing deeds := by
  cases later with
  | cons point rest =>
      exact ⟨[], .governs (service.called_governs (.start point) rfl), .nil⟩
  | nil =>
      simp only [startPoints]
      split
      · exact ⟨[], .governs (service.rollBack_governs _ _), .nil⟩
      · next service' begun =>
          have governs := service.startRefresh_governs service' begun
          obtain ⟨deeds, does, own⟩ := service'.afterGate_does _
            (service'.cache.gate_steady service'.journal now _ _)
          exact ⟨deeds, .after (.governs governs) does, own⟩

theorem start_does (phase : StartPhase) :
    ∃ deeds, Does true service deeds (service.start now phase).1 ∧
      HandsNothing deeds := by
  cases phase with
  | fresh =>
      simp only [start]
      split
      · exact ⟨[], .refl true service, .nil⟩
      · exact service.startPoints_does now [] _
  | startingPoint started point later =>
      simp only [start]
      split
      · exact service.startPoints_does now _ later
      · exact ⟨[], .governs (service.rollBack_governs _ _), .nil⟩
  | gating gate =>
      exact service.afterGate_does _
        (service.cache.resumeGate_steady service.journal now _ gate)
  | stoppingLoop number fault =>
      simp only [start]
      split
      · exact ⟨[], .governs (service.rollBack_governs _ _), .nil⟩
      · exact ⟨[], .refl true service, .nil⟩
  | stoppingPoint later fault => exact ⟨[], .governs (service.rollBack_governs fault later), .nil⟩

theorem stopRefresh_does : Does true service [] service.stopRefresh.1 := by
  have dismissed := service.dismissLoop_governs
  unfold stopRefresh
  generalize service.dismissLoop = run at dismissed ⊢
  split
  · exact .governs dismissed
  · exact .governs (dismissed.trans (stopPoints_governs _ _))

theorem shutdown_does (phase : StopPhase) :
    ∃ deeds, Does true service deeds (service.shutdown phase).1 ∧
      HandsNothing deeds := by
  cases phase with
  | fresh =>
      simp only [shutdown]
      split
      · exact ⟨[], service.stopRefresh_does, .nil⟩
      · next number admits =>
          split
          · next missing =>
              have forgets : Does true service [] { service with admission := none } :=
                .forgets (by rw [admits]; exact missing)
              exact ⟨[], forgets.after (stopRefresh_does _), .nil⟩
          · next shell found => exact ⟨_, .closes admits found, .single rfl⟩
  | draining number =>
      simp only [shutdown]
      split
      · exact ⟨[], service.stopRefresh_does, .nil⟩
      · exact ⟨[], .refl true service, .nil⟩
  | stoppingLoop number =>
      simp only [shutdown]
      split
      · exact ⟨[], .governs (service.stopPoints_governs _), .nil⟩
      · exact ⟨[], .refl true service, .nil⟩
  | stoppingPoint later => exact ⟨[], .governs (service.stopPoints_governs later), .nil⟩

theorem runLoop_does (number : Nat) (phase : LoopPhase) :
    Does true service [] (service.runLoop now number phase).1 := by
  have steady := service.cache.runLoop_steady service.journal now
    (service.stopping.contains number) phase
  unfold runLoop
  generalize service.cache.runLoop service.journal now (service.stopping.contains number) phase =
    run at steady ⊢
  obtain ⟨cache, journal, progress⟩ := run
  have rests := service.withCache_rests cache journal steady
  cases progress with
  | waiting phase' => exact .rests rests
  | done _ =>
      have ends : (service.withCache cache journal).Governs
          { service.withCache cache journal with ended := service.ended ++ [number] } :=
        ⟨rfl, rfl, rfl, rfl, rfl, rfl, rfl, rfl, Nat.le_refl _⟩
      exact .after (.rests rests) (.governs ends)

end Functions

end Service

end DecisionPoint
