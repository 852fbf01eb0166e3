import DecisionPoint.Proofs.Admission.Crew

/-!
# The balance of a shell

What a life amounts to for those who look at the shell: its counters, its queue, its workers at
work, and the answers to submissions and to waiting requesters.
-/

set_option autoImplicit false

namespace DecisionPoint

/-- In a list whose chosen parts are distinct, no two items have the same one. -/
theorem eq_of_nodup_filterMap {α β : Type} {part : α → Option β} {items : List α}
    (distinct : (items.filterMap part).Nodup) {a b : α} (hereA : a ∈ items) (hereB : b ∈ items)
    (value : β) (partA : part a = some value) (partB : part b = some value) : a = b := by
  induction items with
  | nil => cases hereA
  | cons first rest ih =>
      have later (same : part first = some value) {other : α} (mem : other ∈ rest)
          (also : part other = some value) : False := by
        rw [List.filterMap_cons_some same, List.nodup_cons] at distinct
        exact distinct.1 (List.mem_filterMap.mpr ⟨other, mem, also⟩)
      rcases List.mem_cons.mp hereA with rfl | restA
      · rcases List.mem_cons.mp hereB with rfl | restB
        · rfl
        · exact (later partA restB partB).elim
      · rcases List.mem_cons.mp hereB with rfl | restB
        · exact (later partB restA partA).elim
        · exact ih (distinct.sublist ((List.sublist_cons_self _ _).filterMap part)) restA restB

def jobsWaiting (history : List Dealing) : Nat :=
  (jobsAccepted history).length - (jobsTaken history).length

/-- A submission is answered as it is due: a closed shell refuses it, an open one accepts it unless
its queue is full. -/
def Dealing.IsDue (options : AdmissionOptions) (earlier : List Dealing) : Dealing → Prop
  | accepted _ =>
    closed ∉ earlier ∧
      ∀ limit, options.queueCapacity = some limit → jobsWaiting earlier < limit.toNat
  | refused _ .busy =>
    closed ∉ earlier ∧
      ∃ limit, options.queueCapacity = some limit ∧ jobsWaiting earlier = limit.toNat
  | refused _ .closed => closed ∈ earlier
  | _ => True

namespace Shell

variable {options : AdmissionOptions} {history : List Dealing} {shell after : Shell}
  {dealing : Dealing}

theorem Queues.isFull_iff (queues : Queues options history shell) :
    shell.isFull = true ↔
      ∃ limit, options.queueCapacity = some limit ∧ shell.queue.length = limit.toNat := by
  have room := queues.room
  unfold isFull
  rw [queues.capacity] at room ⊢
  cases capacity : options.queueCapacity with
  | none => simp
  | some limit =>
      rw [capacity] at room
      have few := room limit.toNat rfl
      simp only [Option.map_some, decide_eq_true_eq, Option.some.injEq, exists_eq_left']
      omega

theorem Queues.waiting (queues : Queues options history shell) :
    jobsWaiting history = shell.queue.length := by
  rw [jobsWaiting, queues.inOrder, List.length_append, Nat.add_sub_cancel_left]

theorem Life.isOpen (life : Life options history shell) :
    shell.isOpen = true ↔ .closed ∉ history := by
  induction life with
  | opened opens =>
      unfold Shell.start at opens
      split at opens
      · cases opens
      · split at opens
        · cases opens
        · cases opens
          simp
  | @step history before after dealing life deals fits ih =>
      cases deals with
      | closes => simp [close]
      | accepts job _ answer =>
          obtain ⟨-, -, rfl⟩ := (submit_eq_ok_iff before after job).mp answer
          simpa using ih
      | takes worker job _ first =>
          obtain ⟨idle, queue, -, -, rfl⟩ := (take_eq_some_iff before after worker job).mp first
          simpa using ih
      | _ => simpa [refuse, leave, arrive, finish, dismiss] using ih

/-- Each dealing of a life was done at a shell that had lived so far. -/
theorem Life.split (life : Life options history shell) {earlier later : List Dealing}
    (at' : history = earlier ++ dealing :: later) :
    ∃ before middle, Life options earlier before ∧ before.Deals dealing middle := by
  induction life generalizing later with
  | opened opens => simp at at'
  | @step history before after dealing' life deals fits ih =>
      rcases List.eq_nil_or_concat' later with rfl | ⟨rest, last, rfl⟩
      · obtain ⟨rfl, same⟩ := List.append_inj' at' rfl
        cases same
        exact ⟨before, after, life, deals⟩
      · rw [← List.cons_append, ← List.append_assoc] at at'
        exact ih (List.append_inj' at' rfl).1

theorem submit_eq_busy_iff (shell : Shell) (job : Job) :
    shell.submit job = .error .busy ↔ shell.isOpen = true ∧ shell.isFull = true := by
  unfold submit
  cases shell.isOpen <;> cases shell.isFull <;> simp

theorem submit_eq_closed_iff (shell : Shell) (job : Job) :
    shell.submit job = .error .closed ↔ shell.isOpen = false := by
  unfold submit
  cases shell.isOpen <;> cases shell.isFull <;> simp

theorem Life.isDue (life : Life options history shell) (deals : shell.Deals dealing after) :
    dealing.IsDue options history := by
  have queues := life.conserves.queues
  have isOpen := life.isOpen
  cases deals with
  | accepts job after answer =>
      obtain ⟨unclosed, room, -⟩ := (submit_eq_ok_iff shell after job).mp answer
      refine ⟨isOpen.mp unclosed, ?_⟩
      intro limit same
      have few := queues.room limit.toNat (by rw [queues.capacity, same]; rfl)
      rw [queues.waiting]
      refine Nat.lt_of_le_of_ne few ?_
      intro full
      rw [queues.isFull_iff.mpr ⟨limit, same, full⟩] at room
      cases room
  | isBusy job answer =>
      obtain ⟨unclosed, full⟩ := (submit_eq_busy_iff shell job).mp answer
      rw [Dealing.IsDue, queues.waiting]
      exact ⟨isOpen.mp unclosed, queues.isFull_iff.mp full⟩
  | isClosed job answer =>
      have closed := (submit_eq_closed_iff shell job).mp answer
      rw [closed] at isOpen
      exact not_not.mp (fun unclosed => Bool.false_ne_true (isOpen.mpr unclosed))
  | _ => trivial

/-! ## Requesters -/

theorem Works.taken_nodup (works : Works history shell) (queues : Queues options history shell) :
    ((jobsTaken history).map Job.number).Nodup := by
  have all := works.distinct.sublist works.accepted
  rw [queues.inOrder, List.map_append] at all
  exact (List.nodup_append.mp all).1

theorem Life.requesters (life : Life options history shell) (job : Job)
    (accepted : .accepted job ∈ history) (waits : .left job.number ∉ history) :
    job.number ∈ shell.requesters := by
  induction life with
  | opened opens => cases accepted
  | @step history before after dealing life deals fits ih =>
      simp only [List.mem_append, List.mem_singleton, not_or] at accepted waits
      cases deals with
      | accepts job' after answer =>
          obtain ⟨-, -, rfl⟩ := (submit_eq_ok_iff before after job').mp answer
          rcases accepted with earlier | new
          · exact List.mem_append_left _ (ih earlier waits.1)
          · cases new
            exact List.mem_append_right _ (List.mem_singleton_self _)
      | takes worker job' after first =>
          obtain ⟨idle, queue, -, -, rfl⟩ := (take_eq_some_iff before after worker job').mp first
          exact ih (by simpa using accepted) waits.1
      | leaves number =>
          have other : job.number ≠ number := by
            intro same
            exact waits.2 (same ▸ rfl)
          simpa [leave, other] using ih (by simpa using accepted) waits.1
      | _ => exact ih (by simpa using accepted) waits.1

theorem Life.answer?_eq_some_iff (life : Life options history shell) (job : Job)
    (accepted : .accepted job ∈ history) (waits : .left job.number ∉ history)
    (result : FinalResult) :
    shell.answer? job.number = some result ↔ (job, result) ∈ jobsFinished history := by
  obtain ⟨queues, -, works, answers, -⟩ := life.conserves
  have known : job ∈ jobsAccepted history := List.mem_filterMap.mpr ⟨_, accepted, rfl⟩
  -- Answers are kept by number, and the number of a job is that of no other one.
  have own {result' : FinalResult} (kept : (job.number, result') ∈ shell.answers) :
      (job, result') ∈ jobsFinished history := by
    obtain ⟨-, job', same, finished⟩ := (answers.answers job.number result').mp kept
    have others := accepted_of_finished queues works finished
    have distinct := works.distinct.sublist works.accepted
    cases List.inj_on_of_nodup_map distinct others known same
    exact finished
  constructor
  · intro found
    obtain ⟨before, after, split, -⟩ := List.lookup_eq_some_iff.mp found
    apply own
    rw [split]
    exact List.mem_append_right _ List.mem_cons_self
  · intro finished
    have kept : (job.number, result) ∈ shell.answers :=
      (answers.answers job.number result).mpr
        ⟨life.requesters job accepted waits, job, rfl, finished⟩
    cases found : shell.answer? job.number with
    | none =>
        have differs := List.lookup_eq_none_iff.mp found _ kept
        simp at differs
    | some other =>
        obtain ⟨before, after, split, -⟩ := List.lookup_eq_some_iff.mp found
        have finished' : (job, other) ∈ jobsFinished history := by
          apply own
          rw [split]
          exact List.mem_append_right _ List.mem_cons_self
        -- A job finishes once.
        have once : ((jobsFinished history).map Prod.fst).Nodup := by
          have taken := (works.taken_nodup queues).of_map
          exact (List.nodup_append.mp (works.taken.nodup_iff.mp taken)).1
        cases List.inj_on_of_nodup_map once finished finished' rfl
        rfl

theorem Works.refusals (works : Works history shell) (queues : Queues options history shell)
    (job : Job) (fault : AdmissionFault) (refused : .refused job fault ∈ history) :
    job.number ∉ (jobsTaken history).map Job.number := by
  intro mem
  obtain ⟨job', taken, same⟩ := List.mem_map.mp mem
  have known : job' ∈ jobsAccepted history := by
    rw [queues.inOrder]
    exact List.mem_append_left _ taken
  obtain ⟨dealing, accepted, here⟩ := List.mem_filterMap.mp known
  cases dealing with
  | accepted job'' =>
      cases here
      have both := eq_of_nodup_filterMap works.distinct refused accepted job.number rfl
        (congrArg some same)
      cases both
  | _ => cases here

end Shell

/-! ## The balance -/

/-- A job that waits is taken as soon as a worker has its turn, unless all workers are at work. -/
theorem Crew.goesOn {options : AdmissionOptions} {history : List Dealing} {shell : Shell}
    {posts : List (Nat × Post)} (crew : Crew options history shell posts)
    (closes : Shell.Closes history shell) (waiting : shell.queue ≠ []) :
    (posts.filterMap busy?).length = options.maxRequests.toNat ∨
      (∃ worker, (worker, .coming) ∈ posts) ∨
      ∃ worker job after, (worker, .idle) ∈ posts ∧ shell.take worker = some (job, after) := by
  have nobody : workersDismissed history = [] := by
    by_contra dismissed
    exact waiting (closes dismissed).2
  cases line : shell.idle with
  | cons worker rest =>
      right; right
      have first : worker ∈ shell.idle := by
        rw [line]
        exact List.mem_cons_self
      cases queue : shell.queue with
      | nil => exact absurd queue waiting
      | cons job jobs =>
          exact ⟨worker, job, _, crew.stands first,
            (shell.take_eq_some_iff _ worker job).mpr ⟨rest, jobs, line, queue, rfl⟩⟩
  | nil =>
      -- Nobody stands in line and nobody has ended: the others are at work or still to come.
      by_cases coming : ∃ worker, (worker, Post.coming) ∈ posts
      · exact .inr (.inl coming)
      · left
        have all : (posts.filterMap busy?).length = posts.length := by
          rw [List.filterMap_length_eq_length]
          rintro ⟨worker, post⟩ mem
          cases post with
          | coming => exact absurd ⟨worker, mem⟩ coming
          | idle =>
              have stands : worker ∈ posts.filterMap idle? := List.mem_filterMap.mpr ⟨_, mem, rfl⟩
              rw [crew.idle.mem_iff, line] at stands
              cases stands
          | busy job => rfl
        have size := crew.roll.length_eq
        rw [nobody, List.append_nil, List.length_map, List.length_range] at size
        rw [all, size]

/-- The books of a shell agree with its history, its queue and the workers at work. -/
structure Shell.Balances (options : AdmissionOptions) (history : List Dealing) (shell : Shell)
    (posts : List (Nat × Post)) : Prop where
  once : (numbersSubmitted history).Nodup
  due : ∀ earlier dealing later, history = earlier ++ dealing :: later →
    dealing.IsDue options earlier
  accepted : shell.accepted.toNat =
    (jobsFinished history).length + (posts.filterMap busy?).length + shell.queue.length
  rejected : shell.rejected.toNat = busyAnswers history
  atWork : (posts.filterMap busy?).length ≤ options.maxRequests.toNat
  room : ∀ limit, options.queueCapacity = some limit → shell.queue.length ≤ limit.toNat
  inOrder : jobsAccepted history = jobsTaken history ++ shell.queue
  taken : (jobsTaken history).Perm
    ((jobsFinished history).map Prod.fst ++ (posts.filterMap busy?).map Prod.snd)
  takenOnce : ((jobsTaken history).map Job.number).Nodup
  refusals : ∀ job fault, .refused job fault ∈ history →
    job.number ∉ (jobsTaken history).map Job.number
  isOpen : shell.isOpen = true ↔ .closed ∉ history
  goesOn : shell.queue ≠ [] →
    (posts.filterMap busy?).length = options.maxRequests.toNat ∨
      (∃ worker, (worker, .coming) ∈ posts) ∨
      ∃ worker job after, (worker, .idle) ∈ posts ∧ shell.take worker = some (job, after)
  ends : workersDismissed history ≠ [] → .closed ∈ history ∧ shell.queue = []

namespace Shell

variable {options : AdmissionOptions} {history : List Dealing} {shell : Shell}
  {posts : List (Nat × Post)}

theorem Conserves.count (conserves : Conserves options history shell) :
    (jobsAccepted history).length =
      (jobsFinished history).length + shell.running.length + shell.queue.length := by
  have taken := conserves.works.taken.length_eq
  rw [List.length_append, List.length_map, List.length_map] at taken
  rw [conserves.queues.inOrder, List.length_append, taken]

theorem busyAnswers_le (history : List Dealing) :
    busyAnswers history ≤ (numbersSubmitted history).length := by
  rw [busyAnswers, numbersSubmitted, List.length_filterMap_eq_countP]
  apply List.countP_mono_left
  intro dealing mem busy
  cases dealing with
  | refused job fault => rfl
  | _ => cases busy

theorem Life.balances (life : Life options history shell) (crew : Crew options history shell posts)
    (few : (numbersSubmitted history).length < UInt64.size) :
    shell.Balances options history posts := by
  have conserves := life.conserves
  have count := conserves.count
  obtain ⟨queues, staffed, works, -, closes⟩ := conserves
  have atWork := crew.busy.length_eq
  refine ⟨works.distinct, ?_, ?_, ?_, ?_, ?_, queues.inOrder, ?_, works.taken_nodup queues,
    works.refusals queues, life.isOpen, crew.goesOn closes, ?_⟩
  · intro earlier dealing later split
    obtain ⟨before, middle, life', deals⟩ := life.split split
    exact life'.isDue deals
  · have known := works.accepted.length_le
    rw [List.length_map] at known
    rw [queues.accepted, UInt64.toNat_ofNat_of_lt' (Nat.lt_of_le_of_lt known few), count, atWork]
  · rw [queues.rejected, UInt64.toNat_ofNat_of_lt' (Nat.lt_of_le_of_lt (busyAnswers_le _) few)]
  · rw [atWork]
    have size := staffed.size
    omega
  · intro limit capacity
    exact queues.room limit.toNat (by rw [queues.capacity, capacity]; rfl)
  · exact works.taken.trans ((crew.busy.symm.map Prod.snd).append_left _)
  · intro dismissed
    obtain ⟨shut, empty⟩ := closes dismissed
    refine ⟨?_, empty⟩
    by_contra unclosed
    rw [life.isOpen.mpr unclosed] at shut
    cases shut

end Shell

end DecisionPoint
