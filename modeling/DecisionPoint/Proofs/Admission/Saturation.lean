import DecisionPoint.Proofs.Admission.Conservation
import DecisionPoint.Proofs.Admission.Draining

/-!
# Refusals and saturation

A request is refused for want of room when the queue is full, whatever the workers do.  A worker
that stands in line takes its job only in its turn, so the queue may be full before that.  All
workers are at work exactly if none of the others could go on.
-/

set_option autoImplicit false

namespace DecisionPoint

def WorkerPhase.isEvaluating : WorkerPhase → Bool
  | evaluating _ _ => true
  | _ => false

namespace Shell

variable {options : AdmissionOptions} {history : List Dealing} {shell : Shell}

/-- A request can wait in every shell that was opened. -/
theorem Life.hasPlaces (life : Life options history shell) {limit : UInt64}
    (limited : options.queueCapacity = some limit) : 0 < limit.toNat := by
  induction life with
  | opened opens =>
      unfold Shell.start at opens
      split at opens
      · cases opens
      · split at opens
        · cases opens
        · next places =>
            rw [limited, Option.some.injEq, ← UInt64.toNat_inj] at places
            exact Nat.pos_of_ne_zero places
  | step _ _ _ ih => exact ih

/-- Nobody has ended as long as jobs wait, so the crew is complete. -/
theorem Closes.complete {posts : List (Nat × Post)} (closes : Closes history shell)
    (crew : Crew options history shell posts) (waiting : shell.queue ≠ []) :
    posts.length = options.maxRequests.toNat := by
  have nobody : workersDismissed history = [] := by
    by_contra dismissed
    exact waiting (closes dismissed).2
  have size := crew.roll.length_eq
  rwa [nobody, List.append_nil, List.length_map, List.length_range] at size

end Shell

section Posts

variable {number : Nat} {activities : List Activity}

theorem busy_posts_iff :
    ((posts number activities).filterMap busy?).length = (posts number activities).length ↔
      ∀ worker phase, .worker ⟨number, worker⟩ phase ∈ activities → phase.isEvaluating = true := by
  rw [List.filterMap_length_eq_length]
  constructor
  · intro busy worker phase mem
    have atWork := busy _ (mem_posts.mpr ⟨phase, mem, rfl⟩)
    cases phase with
    | evaluating job evaluation => rfl
    | _ => cases atWork
  · rintro evaluating ⟨worker, post⟩ mem
    obtain ⟨phase, here, rfl⟩ := mem_posts.mp mem
    have atWork := evaluating worker phase here
    cases phase with
    | evaluating job evaluation => rfl
    | _ => cases atWork

end Posts

namespace World

/-- As many requests wait in a shell as may. -/
def Full (options : AdmissionOptions) (number : Nat) (world : World) : Prop :=
  ∃ shell limit, world.service.shell? number = some shell ∧ options.queueCapacity = some limit ∧
    shell.queue.length = limit.toNat

/-- Every worker of a shell is evaluating a request, and as many further ones wait as may. -/
structure Saturated (options : AdmissionOptions) (number : Nat) (world : World) : Prop where
  atWork : ((posts number world.activities).filterMap busy?).length = options.maxRequests.toNat
  waiting : world.Full options number

/-- Of the workers of a shell only those that evaluate have something to do. -/
def CrewRests (number : Nat) (world : World) : Prop :=
  ∀ worker phase, .worker ⟨number, worker⟩ phase ∈ world.activities → phase.isEvaluating = false →
    world.service.workerCanGoOn world.now ⟨number, worker⟩ phase = false

variable {options : ServiceOptions} {world : World} {deeds : List Deed}

/-- In a full shell a worker that does not evaluate is one that comes, or the first in line can
take a job. -/
theorem saturated_iff_crewRests
    (accounts : Accounts options deeds world.service world.activities) {number : Nat}
    (full : world.Full options.admission number) :
    world.Saturated options.admission number ↔ world.CrewRests number := by
  obtain ⟨shell, limit, found, limited, length⟩ := full
  obtain ⟨life, crew⟩ := accounts.shells number shell found
  have closes := life.conserves.closes
  have waiting : shell.queue ≠ [] := by
    have places := life.hasPlaces limited
    rw [← length] at places
    exact List.length_pos_iff.mp places
  have complete := closes.complete crew waiting
  constructor
  · intro saturated worker phase mem other
    have busy := saturated.atWork
    rw [← complete, busy_posts_iff] at busy
    rw [busy worker phase mem] at other
    cases other
  · intro rests
    refine ⟨?_, shell, limit, found, limited, length⟩
    rcases crew.goesOn closes waiting with
      atWork | ⟨worker, coming⟩ | ⟨worker, job, after, idle, took⟩
    · exact atWork
    · -- Whoever has yet to come can always do so.
      obtain ⟨phase, mem, same⟩ := mem_posts.mp coming
      cases phase with
      | fresh => cases rests worker .fresh mem rfl
      | _ => cases same
    · obtain ⟨phase, mem, same⟩ := mem_posts.mp idle
      cases phase with
      | idle =>
          have stays := rests worker .idle mem rfl
          obtain ⟨line, queue, first, next, -⟩ := (shell.take_eq_some_iff after worker job).mp took
          simp [Service.workerCanGoOn, found, Shell.canGoOn, first, next] at stays
      | _ => cases same

end World

/-- Who is refused for want of room has found as many requests waiting as may.  All workers are
evaluating then if and only if none of the others could have taken its turn instead. -/
theorem busy_when_saturated_iff (options : ServiceOptions) (beginning world : World)
    (happenings : List Happening) (new : beginning.IsNew options)
    (run : World.Run beginning happenings world) (request : Request)
    (busy : (world.service.submit request).2 = .error .busy) :
    ∃ number, world.service.admission = some number ∧ world.Full options.admission number ∧
      (world.Saturated options.admission number ↔ world.CrewRests number) := by
  obtain ⟨deeds, ledger⟩ := run.ledger
  have admits := ledger.admits new
  cases taken : world.service.admission with
  | none =>
      rw [admits.shut taken request] at busy
      cases busy
  | some number =>
      obtain ⟨shell, found, -⟩ := admits.isOpen number taken
      obtain ⟨limit, limited, length⟩ := (admits.busy number shell taken found request).mp busy
      have full : world.Full options.admission number := ⟨shell, limit, found, limited, length⟩
      exact ⟨number, rfl, full, World.saturated_iff_crewRests (ledger.accounts new) full⟩

open SampleAdmission in
/-- With one worker and one place to wait, the third request is refused when the first is at work
and the second waits. -/
theorem third_request_finds_saturation :
    ∃ happenings world, World.Run beginning happenings world ∧
      (world.service.submit (.blank "third")).2 = .error .busy ∧
      world.service.admission = some 1 ∧ world.Saturated options.admission 1 ∧
      world.CrewRests 1 := by
  have opened : World.Run beginning _ _ :=
    .step (.step (.step (.step .start (.begins (.starting .fresh) rfl))
      (.turns [] [] _ _ _ rfl rfl)) (.turns [] [] _ _ _ rfl rfl)) .joins
  have taken : World.Run beginning _ _ :=
    .step (.step (.step opened (.begins (requester "first") rfl)) (.turns [_, _] [] _ _ _ rfl rfl))
      (.turns [_] [_] _ _ _ rfl rfl)
  have waits : World.Run beginning _ _ :=
    .step (.step taken (.begins (requester "second") rfl)) (.turns [_, _, _] [] _ _ _ rfl rfl)
  have new : beginning.IsNew options := ⟨_, _, _, _, _, _, rfl⟩
  obtain ⟨number, admits, full, saturated⟩ :=
    busy_when_saturated_iff options _ _ _ new waits (.blank "third") rfl
  cases admits
  have atWork : World.Saturated options.admission 1 _ := ⟨rfl, full⟩
  exact ⟨_, _, waits, rfl, rfl, atWork, saturated.mp atWork⟩

open SampleAdmission in
/-- The second request comes before the worker has had its turn: it is refused, although the worker
stands in line and nothing is at work. -/
theorem second_request_refused_beside_idle_worker :
    ∃ happenings world shell,
      World.Run beginning
        (happenings ++ [.turn (requester "second") (.done (.authorized (.error .busy)))]) world ∧
      posts 1 world.activities = [(0, .idle)] ∧ world.service.shell? 1 = some shell ∧
      shell.running = [] ∧ shell.queue.map (·.request) = [.blank "first"] ∧
      ¬world.Saturated options.admission 1 := by
  have standing : World.Run beginning _ _ :=
    .step (.step (.step (.step (.step .start (.begins (.starting .fresh) rfl))
      (.turns [] [] _ _ _ rfl rfl)) (.turns [] [] _ _ _ rfl rfl)) .joins)
      (.turns [_] [] _ _ _ rfl rfl)
  have waits : World.Run beginning _ _ :=
    .step (.step standing (.begins (requester "first") rfl)) (.turns [_, _] [] _ _ _ rfl rfl)
  have refused : World.Run beginning _ _ :=
    .step (.step waits (.begins (requester "second") rfl)) (.turns [_, _, _] [] _ _ _ rfl rfl)
  refine ⟨_, _, _, refused, rfl, rfl, rfl, rfl, ?_⟩
  intro saturated
  cases saturated.atWork

end DecisionPoint
