import DecisionPoint.Admission.Shell
import Mathlib.Data.List.Basic
import Mathlib.Data.List.Nodup
import Mathlib.Data.List.Perm.Basic

/-!
# The life of a shell

A `Life` is what is done at a shell from its opening on, in any order.  Every job that was accepted
waits, is at work or has finished; jobs are taken in the order of their acceptance; and each result
is kept for the requester of its own job.
-/

set_option autoImplicit false

namespace DecisionPoint

/-- Something that is done at a shell. -/
inductive Dealing where
  | accepted (job : Job)
  | refused (job : Job) (fault : AdmissionFault)
  | left (number : Nat)
  | closed
  | arrived (worker : Nat)
  | took (worker : Nat) (job : Job)
  | finished (worker : Nat) (job : Job) (result : FinalResult)
  | dismissed (worker : Nat)

namespace Dealing

def accepted? : Dealing → Option Job
  | accepted job => some job
  | _ => none

def submitted? : Dealing → Option Nat
  | accepted job | refused job _ => some job.number
  | _ => none

def isBusy : Dealing → Bool
  | refused _ .busy => true
  | _ => false

def arrived? : Dealing → Option Nat
  | arrived worker => some worker
  | _ => none

def took? : Dealing → Option Job
  | took _ job => some job
  | _ => none

def finished? : Dealing → Option (Job × FinalResult)
  | finished _ job result => some (job, result)
  | _ => none

def dismissed? : Dealing → Option Nat
  | dismissed worker => some worker
  | _ => none

end Dealing

/-! ## What a history tells -/

section Histories

variable (history : List Dealing)

def jobsAccepted : List Job := history.filterMap Dealing.accepted?

def numbersSubmitted : List Nat := history.filterMap Dealing.submitted?

/-- How many submissions were answered with a full queue. -/
def busyAnswers : Nat := history.countP Dealing.isBusy

def workersArrived : List Nat := history.filterMap Dealing.arrived?

def jobsTaken : List Job := history.filterMap Dealing.took?

def jobsFinished : List (Job × FinalResult) := history.filterMap Dealing.finished?

def workersDismissed : List Nat := history.filterMap Dealing.dismissed?

theorem filterMap_snoc {α β : Type} (f : α → Option β) (items : List α) (item : α) :
    (items ++ [item]).filterMap f = items.filterMap f ++ (f item).toList := by
  cases found : f item <;> simp [found]

variable (dealing : Dealing)

@[simp] theorem jobsAccepted_snoc :
    jobsAccepted (history ++ [dealing]) = jobsAccepted history ++ dealing.accepted?.toList :=
  filterMap_snoc _ history dealing

@[simp] theorem numbersSubmitted_snoc :
    numbersSubmitted (history ++ [dealing]) =
      numbersSubmitted history ++ dealing.submitted?.toList :=
  filterMap_snoc _ history dealing

@[simp] theorem busyAnswers_snoc :
    busyAnswers (history ++ [dealing]) = busyAnswers history + dealing.isBusy.toNat := by
  cases busy : dealing.isBusy <;> simp [busyAnswers, busy]

@[simp] theorem workersArrived_snoc :
    workersArrived (history ++ [dealing]) = workersArrived history ++ dealing.arrived?.toList :=
  filterMap_snoc _ history dealing

@[simp] theorem jobsTaken_snoc :
    jobsTaken (history ++ [dealing]) = jobsTaken history ++ dealing.took?.toList :=
  filterMap_snoc _ history dealing

@[simp] theorem jobsFinished_snoc :
    jobsFinished (history ++ [dealing]) = jobsFinished history ++ dealing.finished?.toList :=
  filterMap_snoc _ history dealing

@[simp] theorem workersDismissed_snoc :
    workersDismissed (history ++ [dealing]) =
      workersDismissed history ++ dealing.dismissed?.toList :=
  filterMap_snoc _ history dealing

end Histories

namespace Shell

/-- One thing is done at a shell.  A submission is answered as `submit` says, the first worker in
line takes the first job, and only a worker at a job finishes it. -/
inductive Deals (shell : Shell) : Dealing → Shell → Prop where
  | accepts (job : Job) (after : Shell) (answer : shell.submit job = .ok after) :
      Deals shell (.accepted job) after
  | isBusy (job : Job) (answer : shell.submit job = .error .busy) :
      Deals shell (.refused job .busy) shell.refuse
  | isClosed (job : Job) (answer : shell.submit job = .error .closed) :
      Deals shell (.refused job .closed) shell
  | leaves (number : Nat) : Deals shell (.left number) (shell.leave number)
  | closes : Deals shell .closed shell.close
  | arrives (worker : Nat) : Deals shell (.arrived worker) (shell.arrive worker)
  | takes (worker : Nat) (job : Job) (after : Shell)
      (first : shell.take worker = some (job, after)) : Deals shell (.took worker job) after
  | finishes (worker : Nat) (job : Job) (result : FinalResult)
      (atWork : (worker, job) ∈ shell.running) :
      Deals shell (.finished worker job result) ((shell.finish worker job result).arrive worker)
  | dismisses (worker : Nat) (first : shell.idle.head? = some worker) (done : shell.isDone = true) :
      Deals shell (.dismissed worker) (shell.dismiss worker)

end Shell

/-- Jobs have numbers of their own, and each worker of the shell arrives once. -/
def Dealing.Fits (options : AdmissionOptions) (history : List Dealing) : Dealing → Prop
  | accepted job | refused job _ => job.number ∉ numbersSubmitted history
  | arrived worker => worker < options.maxRequests.toNat ∧ worker ∉ workersArrived history
  | _ => True

namespace Shell

/-- What was done at a shell since it was opened, and the shell that came of it. -/
inductive Life (options : AdmissionOptions) : List Dealing → Shell → Prop where
  | opened {shell : Shell} (opens : Shell.start options = .ok shell) : Life options [] shell
  | step {history : List Dealing} {shell after : Shell} {dealing : Dealing}
      (earlier : Life options history shell) (deals : shell.Deals dealing after)
      (fits : dealing.Fits options history) : Life options (history ++ [dealing]) after

/-! ## Conservation -/

/-- Jobs are taken in the order of their acceptance, and those that were not taken wait. -/
structure Queues (options : AdmissionOptions) (history : List Dealing) (shell : Shell) : Prop where
  accepted : shell.accepted = .ofNat (jobsAccepted history).length
  rejected : shell.rejected = .ofNat (busyAnswers history)
  capacity : shell.capacity = options.queueCapacity.map UInt64.toNat
  room : ∀ limit ∈ shell.capacity, shell.queue.length ≤ limit
  inOrder : jobsAccepted history = jobsTaken history ++ shell.queue

/-- Workers stand in line, are at work or have ended. -/
structure Staffed (options : AdmissionOptions) (history : List Dealing) (shell : Shell) : Prop where
  workers : (workersArrived history).Perm
    (shell.idle ++ shell.running.map Prod.fst ++ workersDismissed history)
  distinct : (workersArrived history).Nodup
  known : ∀ worker ∈ workersArrived history, worker < options.maxRequests.toNat
  alive : shell.alive + (workersDismissed history).length = options.maxRequests.toNat

/-- Jobs that were taken have finished or are at work. -/
structure Works (history : List Dealing) (shell : Shell) : Prop where
  taken : (jobsTaken history).Perm
    ((jobsFinished history).map Prod.fst ++ shell.running.map Prod.snd)
  distinct : (numbersSubmitted history).Nodup
  accepted : ((jobsAccepted history).map Job.number).Sublist (numbersSubmitted history)

/-- Results are kept for the requesters of their own jobs. -/
structure Answers (history : List Dealing) (shell : Shell) : Prop where
  answers : ∀ number result, (number, result) ∈ shell.answers ↔
    number ∈ shell.requesters ∧
      ∃ job, job.number = number ∧ (job, result) ∈ jobsFinished history
  requesters : ∀ number ∈ shell.requesters, number ∈ (jobsAccepted history).map Job.number

/-- Workers end when there is nothing left to do. -/
def Closes (history : List Dealing) (shell : Shell) : Prop :=
  workersDismissed history ≠ [] → shell.isOpen = false ∧ shell.queue = []

/-- No job is lost, doubled, moved ahead or mixed up with another one. -/
structure Conserves (options : AdmissionOptions) (history : List Dealing) (shell : Shell) :
    Prop where
  queues : Queues options history shell
  staffed : Staffed options history shell
  works : Works history shell
  answers : Answers history shell
  closes : Closes history shell

/-! ## What one dealing preserves -/

theorem submit_eq_ok_iff (shell after : Shell) (job : Job) :
    shell.submit job = .ok after ↔
      shell.isOpen = true ∧ shell.isFull = false ∧
        after =
          { shell with
            queue := shell.queue ++ [job]
            requesters := shell.requesters ++ [job.number]
            accepted := shell.accepted + 1 } := by
  unfold submit
  cases shell.isOpen <;> cases shell.isFull <;> simp [eq_comm]

theorem take_eq_some_iff (shell after : Shell) (worker : Nat) (job : Job) :
    shell.take worker = some (job, after) ↔
      ∃ idle queue, shell.idle = worker :: idle ∧ shell.queue = job :: queue ∧
        after =
          { shell with
            idle := idle, queue := queue, running := shell.running ++ [(worker, job)] } := by
  unfold take
  cases shell.idle with
  | nil => simp
  | cons first idle =>
      cases shell.queue with
      | nil => simp
      | cons next queue =>
          by_cases same : first = worker
          · subst same
            simp only [if_true, Option.some.injEq, Prod.mk.injEq, List.cons.injEq, true_and]
            constructor
            · rintro ⟨rfl, rfl⟩
              exact ⟨idle, queue, rfl, ⟨rfl, rfl⟩, rfl⟩
            · rintro ⟨_, _, rfl, ⟨rfl, rfl⟩, rfl⟩
              exact ⟨rfl, rfl⟩
          · simp [same]

section Preservation

variable {options : AdmissionOptions} {history : List Dealing} {shell after : Shell}
  {dealing : Dealing}

theorem Queues.deals (queues : Queues options history shell) (deals : shell.Deals dealing after) :
    Queues options (history ++ [dealing]) after := by
  obtain ⟨accepted, rejected, capacity, room, inOrder⟩ := queues
  cases deals with
  | accepts job after answer =>
      obtain ⟨-, space, rfl⟩ := (submit_eq_ok_iff shell after job).mp answer
      refine ⟨?_, ?_, capacity, ?_, ?_⟩
      · simp [accepted, Dealing.accepted?, UInt64.ofNat_add]
      · simpa [Dealing.isBusy] using rejected
      · intro limit limited
        rw [Option.mem_def] at limited
        rw [isFull, limited] at space
        rw [List.length_append]
        exact Nat.not_le.mp (of_decide_eq_false space)
      · simp [inOrder, Dealing.accepted?, Dealing.took?]
  | isBusy job answer =>
      refine ⟨?_, ?_, capacity, room, ?_⟩
      · simpa [refuse, Dealing.accepted?] using accepted
      · simp [refuse, rejected, Dealing.isBusy, UInt64.ofNat_add]
      · simpa [refuse, Dealing.accepted?, Dealing.took?] using inOrder
  | takes worker job after first =>
      obtain ⟨idle, queue, -, waiting, rfl⟩ := (take_eq_some_iff shell after worker job).mp first
      refine ⟨?_, ?_, capacity, ?_, ?_⟩
      · simpa [Dealing.accepted?] using accepted
      · simpa [Dealing.isBusy] using rejected
      · intro limit limited
        have fits := room limit limited
        rw [waiting, List.length_cons] at fits
        exact Nat.le_of_succ_le fits
      · simp [inOrder, waiting, Dealing.accepted?, Dealing.took?]
  | _ =>
      refine ⟨?_, ?_, capacity, room, ?_⟩
      · simpa [Dealing.accepted?, leave, close, arrive, finish, dismiss] using accepted
      · simpa [Dealing.isBusy, leave, close, arrive, finish, dismiss] using rejected
      · simpa [Dealing.accepted?, Dealing.took?, leave, close, arrive, finish, dismiss]
          using inOrder

theorem Staffed.running (staffed : Staffed options history shell) :
    (shell.running.map Prod.fst).Nodup := by
  have apart := (staffed.workers.nodup_iff.mp staffed.distinct)
  rw [List.append_assoc] at apart
  exact (List.nodup_append.mp (List.nodup_append.mp apart).2.1).1

theorem Staffed.idle (staffed : Staffed options history shell) : shell.idle.Nodup := by
  have apart := (staffed.workers.nodup_iff.mp staffed.distinct)
  rw [List.append_assoc] at apart
  exact (List.nodup_append.mp apart).1

theorem filter_idle {line rest : List Nat} {worker : Nat} (first : line = worker :: rest)
    (apart : line.Nodup) : line.filter (· ≠ worker) = rest := by
  rw [first, List.nodup_cons] at apart
  rw [first, List.filter_cons_of_neg (by simp), List.filter_eq_self]
  intro other mem
  have differs : other ≠ worker := by
    intro same
    exact apart.1 (same ▸ mem)
  simpa using differs

theorem Staffed.size (staffed : Staffed options history shell) :
    shell.idle.length + shell.running.length + (workersDismissed history).length ≤
      options.maxRequests.toNat := by
  have inRange : workersArrived history ⊆ List.range options.maxRequests.toNat := by
    intro worker arrived
    exact List.mem_range.mpr (staffed.known worker arrived)
  have few := (List.subperm_of_subset staffed.distinct inRange).length_le
  have same := staffed.workers.length_eq
  simp only [List.length_append, List.length_map, List.length_range] at few same
  omega

theorem perm_running (running : List (Nat × Job)) (apart : (running.map Prod.fst).Nodup)
    (worker : Nat) (job : Job) (atWork : (worker, job) ∈ running) :
    running.Perm ((worker, job) :: running.filter fun item => item.1 ≠ worker) := by
  induction running with
  | nil => cases atWork
  | cons first rest ih =>
      rw [List.map_cons, List.nodup_cons] at apart
      rcases List.mem_cons.mp atWork with rfl | later
      · have others : rest.filter (fun item => item.1 ≠ worker) = rest := by
          rw [List.filter_eq_self]
          intro item mem
          have other : item.1 ≠ worker := by
            intro same
            exact apart.1 (same ▸ List.mem_map.mpr ⟨item, mem, rfl⟩)
          simpa using other
        rw [List.filter_cons_of_neg (by simp), others]
      · have other : first.1 ≠ worker := by
          intro same
          exact apart.1 (same ▸ List.mem_map.mpr ⟨(worker, job), later, rfl⟩)
        rw [List.filter_cons_of_pos (by simpa using other)]
        exact ((ih apart.2 later).cons first).trans (.swap _ _ _)

theorem Staffed.deals (staffed : Staffed options history shell) (deals : shell.Deals dealing after)
    (fits : dealing.Fits options history) : Staffed options (history ++ [dealing]) after := by
  have apart := staffed.running
  have standing := staffed.idle
  have size := staffed.size
  obtain ⟨workers, distinct, known, alive⟩ := staffed
  cases deals with
  | arrives worker =>
      obtain ⟨inRange, new⟩ := fits
      refine ⟨?_, ?_, ?_, ?_⟩
      · rw [List.perm_iff_count] at workers ⊢
        intro other
        have balance := workers other
        simp only [arrive, workersArrived_snoc, workersDismissed_snoc, Dealing.arrived?,
          Dealing.dismissed?, Option.toList, List.count_append, List.count_nil] at balance ⊢
        omega
      · simp only [workersArrived_snoc, Dealing.arrived?, Option.toList]
        exact distinct.append (List.nodup_singleton _) (by simpa using new)
      · intro other mem
        simp only [workersArrived_snoc, Dealing.arrived?, Option.toList, List.mem_append,
          List.mem_singleton] at mem
        rcases mem with mem | rfl
        · exact known other mem
        · exact inRange
      · simpa [Dealing.dismissed?, arrive] using alive
  | takes worker job after first =>
      obtain ⟨idle, queue, line, -, rfl⟩ := (take_eq_some_iff shell after worker job).mp first
      refine ⟨?_, by simpa [Dealing.arrived?] using distinct,
        by simpa [Dealing.arrived?] using known, by simpa [Dealing.dismissed?] using alive⟩
      rw [List.perm_iff_count] at workers ⊢
      intro other
      have balance := workers other
      rw [line] at balance
      simp only [workersArrived_snoc, workersDismissed_snoc, Dealing.arrived?, Dealing.dismissed?,
        Option.toList, List.map_append, List.map_cons, List.map_nil, List.count_append,
        List.count_cons, List.count_nil] at balance ⊢
      omega
  | finishes worker job result atWork =>
      -- Its place among those at work is its only one, so filtering it out takes just that away.
      have split := (perm_running shell.running apart worker job atWork).map Prod.fst
      refine ⟨?_, by simpa [Dealing.arrived?] using distinct,
        by simpa [Dealing.arrived?] using known,
        by simpa [Dealing.dismissed?, finish, arrive] using alive⟩
      rw [List.perm_iff_count] at workers split ⊢
      intro other
      have balance := workers other
      have share := split other
      simp only [finish, arrive, workersArrived_snoc, workersDismissed_snoc, Dealing.arrived?,
        Dealing.dismissed?, Option.toList, List.map_cons, List.count_append, List.count_cons,
        List.count_nil] at balance share ⊢
      omega
  | dismisses worker first done =>
      obtain ⟨rest, line⟩ := List.head?_eq_some_iff.mp first
      have others := filter_idle line standing
      refine ⟨?_, by simpa [Dealing.arrived?] using distinct,
        by simpa [Dealing.arrived?] using known, ?_⟩
      · rw [List.perm_iff_count] at workers ⊢
        intro other
        have balance := workers other
        rw [line] at balance
        simp only [dismiss, others, workersArrived_snoc, workersDismissed_snoc, Dealing.arrived?,
          Dealing.dismissed?, Option.toList, List.count_append, List.count_cons,
          List.count_nil] at balance ⊢
        omega
      · -- The count of the living is a subtraction, which `size` keeps from running below zero.
        rw [line, List.length_cons] at size
        simp only [dismiss, workersDismissed_snoc, Dealing.dismissed?, Option.toList,
          List.length_append, List.length_cons, List.length_nil]
        omega
  | accepts job after answer =>
      obtain ⟨-, -, rfl⟩ := (submit_eq_ok_iff shell after job).mp answer
      exact ⟨by simpa [Dealing.arrived?, Dealing.dismissed?] using workers,
        by simpa [Dealing.arrived?] using distinct, by simpa [Dealing.arrived?] using known,
        by simpa [Dealing.dismissed?] using alive⟩
  | _ =>
      exact ⟨by simpa [Dealing.arrived?, Dealing.dismissed?, refuse, leave, close] using workers,
        by simpa [Dealing.arrived?] using distinct, by simpa [Dealing.arrived?] using known,
        by simpa [Dealing.dismissed?, refuse, leave, close] using alive⟩

theorem Works.deals (works : Works history shell) (staffed : Staffed options history shell)
    (deals : shell.Deals dealing after) (fits : dealing.Fits options history) :
    Works (history ++ [dealing]) after := by
  have apart := staffed.running
  obtain ⟨taken, distinct, accepted⟩ := works
  cases deals with
  | accepts job after answer =>
      obtain ⟨-, -, rfl⟩ := (submit_eq_ok_iff shell after job).mp answer
      refine ⟨by simpa [Dealing.took?, Dealing.finished?] using taken, ?_, ?_⟩
      · simp only [numbersSubmitted_snoc, Dealing.submitted?, Option.toList]
        exact distinct.append (List.nodup_singleton _) (List.disjoint_singleton.mpr fits)
      · simpa [Dealing.accepted?, Dealing.submitted?] using accepted
  | isBusy job answer | isClosed job answer =>
      refine ⟨by simpa [Dealing.took?, Dealing.finished?, refuse] using taken, ?_, ?_⟩
      · simp only [numbersSubmitted_snoc, Dealing.submitted?, Option.toList]
        exact distinct.append (List.nodup_singleton _) (List.disjoint_singleton.mpr fits)
      · simpa [Dealing.accepted?, Dealing.submitted?] using accepted.trans (by simp)
  | takes worker job after first =>
      obtain ⟨idle, queue, -, -, rfl⟩ := (take_eq_some_iff shell after worker job).mp first
      refine ⟨?_, by simpa [Dealing.submitted?] using distinct,
        by simpa [Dealing.accepted?, Dealing.submitted?] using accepted⟩
      simp only [jobsTaken_snoc, jobsFinished_snoc, Dealing.took?, Dealing.finished?,
        Option.toList, List.append_nil, List.map_append, List.map_cons, List.map_nil,
        ← List.append_assoc]
      exact taken.append_right [job]
  | finishes worker job result atWork =>
      have split := (perm_running shell.running apart worker job atWork).map Prod.snd
      refine ⟨?_, by simpa [Dealing.submitted?] using distinct,
        by simpa [Dealing.accepted?, Dealing.submitted?] using accepted⟩
      simp only [finish, arrive, jobsTaken_snoc, jobsFinished_snoc, Dealing.took?,
        Dealing.finished?, Option.toList, List.append_nil, List.map_append, List.map_cons,
        List.map_nil, List.append_assoc, List.cons_append, List.nil_append]
      exact taken.trans (split.append_left _)
  | _ =>
      exact ⟨by simpa [Dealing.took?, Dealing.finished?, leave, close, arrive, dismiss] using taken,
        by simpa [Dealing.submitted?] using distinct,
        by simpa [Dealing.accepted?, Dealing.submitted?] using accepted⟩

theorem accepted_of_finished (queues : Queues options history shell) (works : Works history shell)
    {job : Job} {result : FinalResult} (finished : (job, result) ∈ jobsFinished history) :
    job ∈ jobsAccepted history := by
  have taken : job ∈ jobsTaken history :=
    works.taken.mem_iff.mpr (List.mem_append_left _ (List.mem_map.mpr ⟨_, finished, rfl⟩))
  rw [queues.inOrder]
  exact List.mem_append_left _ taken

theorem Answers.deals (answers : Answers history shell) (queues : Queues options history shell)
    (works : Works history shell) (deals : shell.Deals dealing after)
    (fits : dealing.Fits options history) : Answers (history ++ [dealing]) after := by
  obtain ⟨answers, requesters⟩ := answers
  cases deals with
  | accepts job after answer =>
      obtain ⟨-, -, rfl⟩ := (submit_eq_ok_iff shell after job).mp answer
      refine ⟨?_, ?_⟩
      · intro number result
        rw [answers]
        simp only [jobsFinished_snoc, Dealing.finished?, Option.toList, List.append_nil,
          List.mem_append, List.mem_singleton]
        constructor
        · rintro ⟨waits, finished⟩
          exact ⟨.inl waits, finished⟩
        · rintro ⟨waits | rfl, job', same, finished⟩
          · exact ⟨waits, job', same, finished⟩
          · -- The number of the new job is that of no earlier one.
            have known := accepted_of_finished queues works finished
            have used := works.accepted.subset (List.mem_map.mpr ⟨job', known, same⟩)
            exact absurd used fits
      · intro number waits
        simp only [List.mem_append, List.mem_singleton] at waits
        simp only [jobsAccepted_snoc, Dealing.accepted?, Option.toList, List.map_append,
          List.map_cons, List.map_nil, List.mem_append, List.mem_singleton]
        exact waits.imp_left (requesters number)
  | leaves gone =>
      refine ⟨?_, ?_⟩
      · intro number result
        have kept := answers number result
        simp only [leave, jobsFinished_snoc, Dealing.finished?, Option.toList, List.append_nil,
          List.mem_filter, decide_eq_true_eq]
        rw [kept]
        tauto
      · intro number waits
        simpa [Dealing.accepted?] using requesters number (List.mem_of_mem_filter waits)
  | finishes worker job result atWork =>
      refine ⟨?_, ?_⟩
      · intro number other
        have kept := answers number other
        simp only [finish, arrive, jobsFinished_snoc, Dealing.finished?, Option.toList,
          List.mem_append, List.mem_singleton, Prod.mk.injEq]
        by_cases waits : job.number ∈ shell.requesters
        · rw [if_pos waits, List.mem_append, List.mem_singleton, Prod.mk.injEq, kept]
          constructor
          · rintro (⟨here, job', same, finished⟩ | ⟨rfl, rfl⟩)
            · exact ⟨here, job', same, .inl finished⟩
            · exact ⟨waits, job, rfl, .inr ⟨rfl, rfl⟩⟩
          · rintro ⟨here, job', same, finished | ⟨rfl, rfl⟩⟩
            · exact .inl ⟨here, job', same, finished⟩
            · exact .inr ⟨same.symm, rfl⟩
        · -- The requester has gone away, so its result is dropped.
          rw [if_neg waits, kept]
          constructor
          · rintro ⟨here, job', same, finished⟩
            exact ⟨here, job', same, .inl finished⟩
          · rintro ⟨here, job', same, finished | ⟨rfl, rfl⟩⟩
            · exact ⟨here, job', same, finished⟩
            · exact absurd (same ▸ here) waits
      · intro number waits
        simpa [Dealing.accepted?] using requesters number waits
  | takes worker job after first =>
      obtain ⟨idle, queue, -, -, rfl⟩ := (take_eq_some_iff shell after worker job).mp first
      exact ⟨by simpa [Dealing.finished?] using answers,
        by simpa [Dealing.accepted?] using requesters⟩
  | _ =>
      exact ⟨by simpa [Dealing.finished?, refuse, close, arrive, dismiss] using answers,
        by simpa [Dealing.accepted?, refuse, close, arrive, dismiss] using requesters⟩

theorem Closes.deals (closes : Closes history shell) (deals : shell.Deals dealing after) :
    Closes (history ++ [dealing]) after := by
  cases deals with
  | accepts job after answer =>
      obtain ⟨isOpen, -, rfl⟩ := (submit_eq_ok_iff shell after job).mp answer
      intro dismissed
      -- An open shell has dismissed nobody yet.
      have closed := closes (by simpa [Dealing.dismissed?] using dismissed)
      rw [isOpen] at closed
      cases closed.1
  | takes worker job after first =>
      obtain ⟨idle, queue, -, waiting, rfl⟩ := (take_eq_some_iff shell after worker job).mp first
      intro dismissed
      have closed := closes (by simpa [Dealing.dismissed?] using dismissed)
      rw [waiting] at closed
      cases closed.2
  | dismisses worker first done =>
      intro _
      simp only [isDone, Bool.and_eq_true, decide_eq_true_eq, List.isEmpty_iff] at done
      exact ⟨done.1.1, done.2⟩
  | closes =>
      intro dismissed
      exact ⟨rfl, (closes (by simpa [Dealing.dismissed?] using dismissed)).2⟩
  | _ =>
      intro dismissed
      simpa [refuse, leave, arrive, finish] using
        closes (by simpa [Dealing.dismissed?] using dismissed)

/-! ## Whole lives -/

theorem conserves_of_start (opens : Shell.start options = .ok shell) :
    Conserves options [] shell := by
  unfold Shell.start at opens
  split at opens
  · cases opens
  · split at opens
    · cases opens
    · cases opens
      exact ⟨⟨rfl, rfl, rfl, fun limit _ => Nat.zero_le limit, rfl⟩,
        ⟨.refl _, .nil, by simp [workersArrived], rfl⟩, ⟨.refl _, .nil, .refl _⟩,
        ⟨by simp, by simp⟩, fun dismissed => absurd rfl dismissed⟩

theorem Conserves.deals (conserves : Conserves options history shell)
    (deals : shell.Deals dealing after) (fits : dealing.Fits options history) :
    Conserves options (history ++ [dealing]) after := by
  obtain ⟨queues, staffed, works, answers, closes⟩ := conserves
  exact ⟨queues.deals deals, staffed.deals deals fits, works.deals staffed deals fits,
    answers.deals queues works deals fits, closes.deals deals⟩

/-- Whatever is done at a shell, in any order, its jobs are conserved. -/
theorem Life.conserves (life : Life options history shell) : Conserves options history shell := by
  induction life with
  | opened opens => exact conserves_of_start opens
  | step earlier deals fits ih => exact ih.deals deals fits

end Preservation

end Shell

end DecisionPoint
