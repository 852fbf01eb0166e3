import DecisionPoint.Proofs.Admission.Balance

/-!
# Closed shells drain

In a closed shell something can be done as long as a worker is left: a worker comes, finishes its
job, takes one or ends, or a requester goes away with its result.  Workers can do only so much, as
no new job comes in.  When all of them have ended, every job has finished and no requester waits.
-/

set_option autoImplicit false

namespace DecisionPoint

/-- All workers of a shell have ended. -/
def Drained (options : AdmissionOptions) (history : List Dealing) : Prop :=
  options.maxRequests.toNat ≤ (workersDismissed history).length

/-- How often workers have come, taken jobs, finished them and ended. -/
def labour (history : List Dealing) : Nat :=
  (workersArrived history).length + (jobsTaken history).length + (jobsFinished history).length +
    (workersDismissed history).length

theorem Drained.append {options : AdmissionOptions} {history : List Dealing}
    (drained : Drained options history) (later : List Dealing) :
    Drained options (history ++ later) := by
  have more : (workersDismissed (history ++ later)).length =
      (workersDismissed history).length + (workersDismissed later).length := by
    simp [workersDismissed]
  unfold Drained at drained ⊢
  omega

theorem labour_append (history later : List Dealing) :
    labour (history ++ later) = labour history + labour later := by
  simp only [labour, workersArrived, jobsTaken, jobsFinished, workersDismissed,
    List.filterMap_append, List.length_append]
  omega

/-- Something that can be done at a closed shell with its workers at some posts. -/
inductive Shell.Pending (shell : Shell) (posts : List (Nat × Post)) : Prop where
  | comes {worker : Nat} (coming : (worker, .coming) ∈ posts)
  | finishes {worker : Nat} {job : Job} (busy : (worker, .busy job) ∈ posts)
  | takes {worker : Nat} {job : Job} {after : Shell} (stands : (worker, .idle) ∈ posts)
      (first : shell.take worker = some (job, after))
  | leaves {number : Nat} {result : FinalResult} (waits : number ∈ shell.requesters)
      (answered : shell.answer? number = some result)
  | ends {worker : Nat} (stands : (worker, .idle) ∈ posts)
      (first : shell.idle.head? = some worker) (done : shell.isDone = true)

namespace Crew

variable {options : AdmissionOptions} {history : List Dealing} {shell : Shell}
  {posts : List (Nat × Post)}

/-- Whoever is left neither to come nor at work stands in line. -/
theorem firstInLine (crew : Crew options history shell posts)
    (staffed : Shell.Staffed options history shell) (alive : shell.alive ≠ 0)
    (here : ¬∃ worker, (worker, Post.coming) ∈ posts)
    (free : ¬∃ worker job, (worker, Post.busy job) ∈ posts) :
    ∃ worker, shell.idle.head? = some worker := by
  have roll := crew.roll.length_eq
  have counted := staffed.alive
  have standing := crew.idle.length_eq
  have all : (posts.filterMap idle?).length = posts.length := by
    rw [List.filterMap_length_eq_length]
    rintro ⟨worker, post⟩ mem
    cases post with
    | coming => exact absurd ⟨worker, mem⟩ here
    | busy job => exact absurd ⟨worker, job, mem⟩ free
    | idle => rfl
  simp only [List.length_append, List.length_map, List.length_range] at roll
  cases line : shell.idle with
  | nil =>
      rw [line, List.length_nil] at standing
      omega
  | cons worker rest => exact ⟨worker, rfl⟩

end Crew

namespace Shell

variable {options : AdmissionOptions} {history : List Dealing} {shell : Shell}
  {posts : List (Nat × Post)}

theorem Life.hasWorkers (life : Life options history shell) : 0 < options.maxRequests.toNat := by
  induction life with
  | opened opens =>
      unfold Shell.start at opens
      split at opens
      · cases opens
      · next some =>
          rw [← UInt64.toNat_inj] at some
          exact Nat.pos_of_ne_zero some
  | step _ _ _ ih => exact ih

theorem Life.drained_iff (life : Life options history shell) :
    Drained options history ↔ shell.alive = 0 := by
  have alive := life.conserves.staffed.alive
  unfold Drained
  omega

theorem Life.dismissed_of_drained (life : Life options history shell)
    (drained : Drained options history) : workersDismissed history ≠ [] := by
  intro nobody
  have some := life.hasWorkers
  rw [Drained, nobody] at drained
  exact Nat.not_lt.mpr drained some

/-- Workers end only when no requester waits, and afterwards none comes. -/
theorem Life.requesters_of_dismissed (life : Life options history shell)
    (dismissed : workersDismissed history ≠ []) : shell.requesters = [] := by
  induction life with
  | opened opens => exact absurd rfl dismissed
  | @step history before after dealing life deals fits ih =>
      cases deals with
      | accepts job after answer =>
          obtain ⟨isOpen, -, rfl⟩ := (submit_eq_ok_iff before after job).mp answer
          have closed := life.conserves.closes (by simpa [Dealing.dismissed?] using dismissed)
          rw [isOpen] at closed
          cases closed.1
      | takes worker job after first =>
          obtain ⟨idle, queue, -, -, rfl⟩ := (take_eq_some_iff before after worker job).mp first
          exact ih (by simpa [Dealing.dismissed?] using dismissed)
      | leaves number =>
          have gone := ih (by simpa [Dealing.dismissed?] using dismissed)
          simp [leave, gone]
      | dismisses worker first done =>
          simp only [isDone, Bool.and_eq_true, List.isEmpty_iff] at done
          exact done.1.2
      | _ => exact ih (by simpa [Dealing.dismissed?] using dismissed)

/-- When nothing waits and nobody is at work, every job has finished. -/
theorem Life.finished_of_rest (life : Life options history shell) (empty : shell.queue = [])
    (rest : shell.running = []) (job : Job) (accepted : job ∈ jobsAccepted history) :
    ∃ result, (job, result) ∈ jobsFinished history := by
  obtain ⟨queues, -, works, -, -⟩ := life.conserves
  rw [queues.inOrder, empty, List.append_nil] at accepted
  have finished := works.taken.mem_iff.mp accepted
  rw [rest, List.map_nil, List.append_nil] at finished
  obtain ⟨⟨job', result⟩, mem, rfl⟩ := List.mem_map.mp finished
  exact ⟨result, mem⟩

theorem Life.rest_of_drained (life : Life options history shell)
    (drained : Drained options history) : shell.queue = [] ∧ shell.running = [] := by
  have conserves := life.conserves
  have size := conserves.staffed.size
  have closed := conserves.closes (life.dismissed_of_drained drained)
  unfold Drained at drained
  exact ⟨closed.2, List.length_eq_zero_iff.mp (by omega)⟩

/-- Workers do only so much for the jobs that were accepted. -/
theorem Life.labour_le (life : Life options history shell) :
    labour history ≤ 2 * options.maxRequests.toNat + 2 * (jobsAccepted history).length := by
  obtain ⟨queues, staffed, works, -, -⟩ := life.conserves
  have size := staffed.size
  have arrived := staffed.workers.length_eq
  have taken := works.taken.length_eq
  have accepted := congrArg List.length queues.inOrder
  simp only [List.length_append, List.length_map] at arrived taken accepted
  unfold labour
  omega

theorem Life.accepted_of_closed {later : List Dealing}
    (life : Life options (history ++ later) shell) (closed : .closed ∈ history) :
    jobsAccepted later = [] := by
  rw [jobsAccepted, List.filterMap_eq_nil_iff]
  intro dealing mem
  obtain ⟨before, after, rfl⟩ := List.append_of_mem mem
  obtain ⟨shell', middle, life', deals⟩ := life.split (List.append_assoc _ _ _).symm
  have due := life'.isDue deals
  cases dealing with
  | accepted job => exact absurd (List.mem_append_left _ closed) due.1
  | _ => rfl

/-- As long as a worker is left at a closed shell, something can be done. -/
theorem Life.pending (life : Life options history shell) (crew : Crew options history shell posts)
    (closed : shell.isOpen = false) (alive : shell.alive ≠ 0) : shell.Pending posts := by
  have conserves := life.conserves
  by_cases coming : ∃ worker, (worker, Post.coming) ∈ posts
  · obtain ⟨worker, coming⟩ := coming
    exact .comes coming
  by_cases atWork : ∃ worker job, (worker, Post.busy job) ∈ posts
  · obtain ⟨worker, job, busy⟩ := atWork
    exact .finishes busy
  have nobody : posts.filterMap busy? = [] := by
    rw [List.filterMap_eq_nil_iff]
    rintro ⟨worker, post⟩ mem
    cases post with
    | busy job => exact absurd ⟨worker, job, mem⟩ atWork
    | _ => rfl
  have rest : shell.running = [] := by
    have busy := crew.busy
    rw [nobody] at busy
    exact busy.nil_eq.symm
  by_cases waiting : shell.queue ≠ []
  · rcases crew.goesOn conserves.closes waiting with full | comes | takes
    · rw [nobody] at full
      exact absurd full (Nat.ne_of_lt life.hasWorkers)
    · exact absurd comes coming
    · obtain ⟨worker, job, after, stands, first⟩ := takes
      exact .takes stands first
  have empty : shell.queue = [] := not_not.mp waiting
  cases requesters : shell.requesters with
  | cons number others =>
      -- The job of this requester has finished, so its result is kept for it.
      have waits : number ∈ shell.requesters := requesters ▸ List.mem_cons_self
      obtain ⟨job, accepted, rfl⟩ := List.mem_map.mp (conserves.answers.requesters number waits)
      obtain ⟨result, finished⟩ := life.finished_of_rest empty rest job accepted
      have kept := (conserves.answers.answers job.number result).mpr ⟨waits, job, rfl, finished⟩
      cases found : shell.answer? job.number with
      | some result' => exact .leaves waits found
      | none =>
          have differs := List.lookup_eq_none_iff.mp found _ kept
          simp at differs
  | nil =>
      have done : shell.isDone = true := by simp [isDone, closed, requesters, empty]
      obtain ⟨worker, first⟩ := crew.firstInLine conserves.staffed alive coming atWork
      exact .ends (crew.stands (List.mem_of_mem_head? first)) first done

end Shell

end DecisionPoint
