import DecisionPoint.Proofs.Admission.Crew
import DecisionPoint.Proofs.Evaluation.Serving
import DecisionPoint.Proofs.Schedule.Ledger

/-!
# The accounts of a service

Shell by shell, what is done in a run is the life of the shell, and the workers among the activities
are its crew.
-/

set_option autoImplicit false

namespace DecisionPoint

def Deed.dealing? (number : Nat) : Deed → Option Dealing
  | dealt other dealing => if other = number then some dealing else none
  | _ => none

def dealingsAt (number : Nat) (deeds : List Deed) : List Dealing :=
  deeds.filterMap (Deed.dealing? number)

section Deeds

variable (number : Nat)

@[simp] theorem dealingsAt_nil : dealingsAt number [] = [] := rfl

@[simp] theorem dealingsAt_append (deeds later : List Deed) :
    dealingsAt number (deeds ++ later) = dealingsAt number deeds ++ dealingsAt number later :=
  List.filterMap_append

@[simp] theorem dealingsAt_dealt (dealing : Dealing) :
    dealingsAt number [.dealt number dealing] = [dealing] := by
  simp [dealingsAt, Deed.dealing?]

theorem dealingsAt_other {other : Nat} (differs : number ≠ other) (dealing : Dealing) :
    dealingsAt other [.dealt number dealing] = [] := by
  simp [dealingsAt, Deed.dealing?, differs]

theorem mem_dealingsAt {deeds : List Deed} {dealing : Dealing} :
    dealing ∈ dealingsAt number deeds ↔ .dealt number dealing ∈ deeds := by
  simp only [dealingsAt, List.mem_filterMap]
  constructor
  · rintro ⟨deed, mem, here⟩
    cases deed with
    | dealt other dealing' =>
        simp only [Deed.dealing?, Option.ite_none_right_eq_some, Option.some.injEq] at here
        obtain ⟨rfl, rfl⟩ := here
        exact mem
    | _ => cases here
  · intro mem
    exact ⟨_, mem, by simp [Deed.dealing?]⟩

@[simp] theorem posts_append (activities more : List Activity) :
    posts number (activities ++ more) = posts number activities ++ posts number more :=
  List.filterMap_append

theorem posts_cons (activity : Activity) (rest : List Activity) :
    posts number (activity :: rest) = (activity.post? number).toList ++ posts number rest := by
  cases here : activity.post? number <;> simp [posts, here]

theorem posts_none {activities : List Activity}
    (none : ∀ activity ∈ activities, activity.post? number = none) :
    posts number activities = [] :=
  List.filterMap_eq_nil_iff.mpr none

theorem Activity.post?_of_calm (activity : Activity) (other : activity.isLooking = false) :
    activity.post? number = none := by
  cases activity <;> first | rfl | cases other

theorem posts_filter (spawned : List Spawned) :
    posts number ((spawned.filter Spawned.isWorker).map Spawned.activity) =
      posts number (spawned.map Spawned.activity) := by
  induction spawned with
  | nil => rfl
  | cons first rest ih =>
      cases first with
      | loop loop => exact ih
      | worker shell index =>
          rw [List.filter_cons_of_pos rfl, List.map_cons, List.map_cons, posts_cons, posts_cons, ih]

end Deeds

theorem lookup_replace {α : Type} (items : List (Nat × α)) (key other : Nat) (value : α) :
    (items.map fun item => if item.1 = key then (key, value) else item).lookup other =
      if other = key then (items.lookup key).map fun _ => value else items.lookup other := by
  induction items with
  | nil => simp
  | cons first rest ih =>
      rw [List.map_cons, List.lookup_cons, List.lookup_cons, List.lookup_cons, ih]
      by_cases same : other = key
      · subst same
        by_cases here : first.1 = other
        · simp [here]
        · simp [here, beq_eq_false_iff_ne.mpr (Ne.symm here)]
      · by_cases here : first.1 = key
        · simp [here, same, beq_eq_false_iff_ne.mpr same]
        · simp [here, same]

namespace Service

variable (service : Service)

theorem shell?_withShell {number : Nat} {shell : Shell}
    (found : service.shell? number = some shell) (after : Shell) (other : Nat) :
    (service.withShell number after).shell? other =
      if other = number then some after else service.shell? other := by
  rw [shell?] at found
  simp only [shell?, withShell, lookup_replace, found, Option.map_some]

theorem shell?_append (number : Nat) (shell : Shell) (fresh : service.shell? number = none)
    (other : Nat) :
    (service.shells ++ [(number, shell)]).lookup other =
      if other = number then some shell else service.shell? other := by
  rw [shell?] at fresh
  rw [List.lookup_append, List.lookup_cons, List.lookup_nil]
  by_cases same : other = number
  · simp [same, fresh]
  · simp [same, beq_eq_false_iff_ne.mpr same, shell?]

end Service

/-- The shells of a service live by the deeds so far, and the activities are their crews. -/
structure Accounts (options : ServiceOptions) (deeds : List Deed) (service : Service)
    (activities : List Activity) : Prop where
  fixed : service.options = options
  shells : ∀ number shell, service.shell? number = some shell →
    Shell.Life options.admission (dealingsAt number deeds) shell ∧
      Crew options.admission (dealingsAt number deeds) shell (posts number activities)
  elsewhere : ∀ number, service.shell? number = none →
    dealingsAt number deeds = [] ∧ posts number activities = []
  numbers : ∀ number shell, service.shell? number = some shell → number < service.nextNumber
  submitted : ∀ number, ∀ job ∈ numbersSubmitted (dealingsAt number deeds), job < service.nextNumber
  admits : ∀ number, service.admission = some number →
    ∃ shell, service.shell? number = some shell ∧ shell.isOpen = true

namespace Accounts

variable {options : ServiceOptions} {deeds later : List Deed} {service after : Service}
  {activities activities' : List Activity}

theorem perm (accounts : Accounts options deeds service activities)
    (same : activities.Perm activities') : Accounts options deeds service activities' := by
  have moved (number : Nat) : (posts number activities).Perm (posts number activities') :=
    same.filterMap _
  refine ⟨accounts.fixed, ?_, ?_, accounts.numbers, accounts.submitted, accounts.admits⟩
  · intro number shell found
    obtain ⟨life, crew⟩ := accounts.shells number shell found
    exact ⟨life, crew.perm (moved number)⟩
  · intro number missing
    obtain ⟨nothing, nobody⟩ := accounts.elsewhere number missing
    exact ⟨nothing, (nobody ▸ moved number).nil_eq.symm⟩

theorem still (accounts : Accounts options deeds service activities)
    (nothing : ∀ number, dealingsAt number later = [])
    (options' : after.options = service.options) (shells : after.shells = service.shells)
    (admission : after.admission = service.admission)
    (numbers : service.nextNumber ≤ after.nextNumber)
    (posted : ∀ number, posts number activities' = posts number activities) :
    Accounts options (deeds ++ later) after activities' := by
  have kept (number : Nat) : after.shell? number = service.shell? number := by
    rw [Service.shell?, shells, Service.shell?]
  refine ⟨options'.trans accounts.fixed, ?_, ?_, ?_, ?_, ?_⟩
  · intro number shell found
    rw [dealingsAt_append, nothing, List.append_nil, posted]
    exact accounts.shells number shell (kept number ▸ found)
  · intro number missing
    rw [dealingsAt_append, nothing, List.append_nil, posted]
    exact accounts.elsewhere number (kept number ▸ missing)
  · intro number shell found
    exact Nat.lt_of_lt_of_le (accounts.numbers number shell (kept number ▸ found)) numbers
  · intro number job submitted
    rw [dealingsAt_append, nothing, List.append_nil] at submitted
    exact Nat.lt_of_lt_of_le (accounts.submitted number job submitted) numbers
  · intro number admits
    rw [kept]
    exact accounts.admits number (admission ▸ admits)

theorem repost (accounts : Accounts options deeds service activities)
    (posted : ∀ number, posts number activities' = posts number activities) :
    Accounts options deeds service activities' := by
  have still := accounts.still (fun _ => dealingsAt_nil _) rfl rfl rfl (Nat.le_refl _) posted
  rw [List.append_nil] at still
  exact still

theorem deal (accounts : Accounts options deeds service activities) {number : Nat}
    {shell shell' : Shell} {dealing : Dealing} (found : service.shell? number = some shell)
    (deals : shell.Deals dealing shell')
    (fits : dealing.Fits options.admission (dealingsAt number deeds))
    (crew : Crew options.admission (dealingsAt number deeds ++ [dealing]) shell'
      (posts number activities'))
    (others : ∀ other, other ≠ number → posts other activities' = posts other activities)
    (options' : after.options = service.options)
    (shells : ∀ other, after.shell? other =
      if other = number then some shell' else service.shell? other)
    (admission : after.admission = none ∨
      after.admission = service.admission ∧ (shell.isOpen = true → shell'.isOpen = true))
    (numbers : service.nextNumber ≤ after.nextNumber)
    (submitted : ∀ job ∈ dealing.submitted?, job < after.nextNumber) :
    Accounts options (deeds ++ [.dealt number dealing]) after activities' := by
  have elsewhere {other : Nat} (differs : other ≠ number) :
      dealingsAt other [.dealt number dealing] = [] :=
    dealingsAt_other number (Ne.symm differs) dealing
  refine ⟨options'.trans accounts.fixed, ?_, ?_, ?_, ?_, ?_⟩
  · intro other shell'' found'
    rw [shells] at found'
    split at found'
    · next same =>
        cases found'
        subst same
        rw [dealingsAt_append, dealingsAt_dealt]
        exact ⟨(accounts.shells other shell found).1.step deals fits, crew⟩
    · next differs =>
        rw [dealingsAt_append, elsewhere differs, List.append_nil, others other differs]
        exact accounts.shells other shell'' found'
  · intro other missing
    rw [shells] at missing
    split at missing
    · cases missing
    · next differs =>
        rw [dealingsAt_append, elsewhere differs, List.append_nil, others other differs]
        exact accounts.elsewhere other missing
  · intro other shell'' found'
    rw [shells] at found'
    split at found'
    · next same =>
        subst same
        exact Nat.lt_of_lt_of_le (accounts.numbers other shell found) numbers
    · exact Nat.lt_of_lt_of_le (accounts.numbers other shell'' found') numbers
  · intro other job mem
    rw [dealingsAt_append] at mem
    by_cases same : other = number
    · subst same
      rw [dealingsAt_dealt, numbersSubmitted_snoc, List.mem_append] at mem
      rcases mem with before | new
      · exact Nat.lt_of_lt_of_le (accounts.submitted other job before) numbers
      · exact submitted job (Option.mem_toList.mp new)
    · rw [elsewhere same, List.append_nil] at mem
      exact Nat.lt_of_lt_of_le (accounts.submitted other job mem) numbers
  · intro other admits
    rcases admission with shut | ⟨kept, stays⟩
    · rw [shut] at admits
      cases admits
    · obtain ⟨shell'', found', isOpen⟩ := accounts.admits other (kept ▸ admits)
      rw [shells]
      split
      · next same =>
          subst same
          rw [found] at found'
          cases found'
          exact ⟨shell', rfl, stays isOpen⟩
      · exact ⟨shell'', found', isOpen⟩

theorem dealAside (accounts : Accounts options deeds service activities) {number : Nat}
    {shell shell' : Shell} {dealing : Dealing} (found : service.shell? number = some shell)
    (deals : shell.Deals dealing shell')
    (fits : dealing.Fits options.admission (dealingsAt number deeds))
    (aside : dealing.arrived? = none ∧ dealing.dismissed? = none)
    (same : shell'.idle = shell.idle ∧ shell'.running = shell.running)
    (options' : after.options = service.options)
    (shells : ∀ other, after.shell? other =
      if other = number then some shell' else service.shell? other)
    (admission : after.admission = none ∨
      after.admission = service.admission ∧ (shell.isOpen = true → shell'.isOpen = true))
    (numbers : service.nextNumber ≤ after.nextNumber)
    (submitted : ∀ job ∈ dealing.submitted?, job < after.nextNumber) :
    Accounts options (deeds ++ [.dealt number dealing]) after activities :=
  accounts.deal found deals fits
    ((accounts.shells number shell found).2.still aside.1 aside.2 same.1 same.2) (fun _ _ => rfl)
    options' shells admission numbers submitted

theorem unused (accounts : Accounts options deeds service activities) (number : Nat) :
    service.nextNumber ∉ numbersSubmitted (dealingsAt number deeds) := by
  intro used
  exact Nat.lt_irrefl _ (accounts.submitted number _ used)

theorem few (accounts : Accounts options deeds service activities) {number : Nat} {shell : Shell}
    (found : service.shell? number = some shell) :
    (numbersSubmitted (dealingsAt number deeds)).length ≤ service.nextNumber := by
  have distinct := (accounts.shells number shell found).1.conserves.works.distinct
  have inRange : numbersSubmitted (dealingsAt number deeds) ⊆ List.range service.nextNumber := by
    intro job submitted
    exact List.mem_range.mpr (accounts.submitted number job submitted)
  have length := (List.subperm_of_subset distinct inRange).length_le
  rwa [List.length_range] at length

end Accounts

/-! ## What keeps the accounts -/

theorem posts_coming (number shell : Nat) (workers : List Nat) :
    posts number ((workers.map (Spawned.worker shell)).map Spawned.activity) =
      if shell = number then workers.map fun worker => (worker, .coming) else [] := by
  induction workers with
  | nil => simp [posts]
  | cons worker rest ih =>
      rw [List.map_cons, List.map_cons, posts_cons, ih]
      by_cases same : shell = number
      · simp [same, Spawned.activity, Activity.post?, WorkerPhase.post]
      · simp [same, Spawned.activity, Activity.post?]

/-- A new shell begins its life with all its workers to come. -/
theorem Accounts.opens {options : ServiceOptions} {deeds : List Deed} {service : Service}
    {tasks : List Activity} {shell : Shell}
    (accounts : Accounts options deeds service (service.spawned.map Spawned.activity ++ tasks))
    (opens : Shell.start service.options.admission = .ok shell) :
    Accounts options (deeds ++ [.opened service.nextNumber])
      { service with
        shells := service.shells ++ [(service.nextNumber, shell)]
        admission := some service.nextNumber
        spawned :=
          service.spawned ++ (List.range shell.alive).map (Spawned.worker service.nextNumber)
        nextNumber := service.nextNumber + 1 }
      ((service.spawned ++ (List.range shell.alive).map
        (Spawned.worker service.nextNumber)).map Spawned.activity ++ tasks) := by
  -- The number is a new one, so neither a shell nor a worker has it yet.
  have fresh : service.shell? service.nextNumber = none := by
    cases found : service.shell? service.nextNumber with
    | none => rfl
    | some shell' => exact absurd (accounts.numbers _ shell' found) (Nat.lt_irrefl _)
  have found := service.shell?_append service.nextNumber shell fresh
  have nothing (number : Nat) : dealingsAt number [.opened service.nextNumber] = [] := rfl
  have posted (number : Nat) : posts number ((service.spawned ++ (List.range shell.alive).map
        (Spawned.worker service.nextNumber)).map Spawned.activity ++ tasks) =
      posts number (service.spawned.map Spawned.activity) ++
        (if service.nextNumber = number then
          (List.range shell.alive).map fun worker => (worker, .coming) else []) ++
        posts number tasks := by
    rw [List.map_append, posts_append, posts_append, posts_coming]
  have elsewhere {number : Nat} (differs : number ≠ service.nextNumber) :
      posts number ((service.spawned ++ (List.range shell.alive).map
        (Spawned.worker service.nextNumber)).map Spawned.activity ++ tasks) =
      posts number (service.spawned.map Spawned.activity ++ tasks) := by
    rw [posted, if_neg (Ne.symm differs), List.append_nil, posts_append]
  refine ⟨accounts.fixed, ?_, ?_, ?_, ?_, ?_⟩
  · intro number shell' found'
    rw [Service.shell?, found] at found'
    rw [dealingsAt_append, nothing, List.append_nil]
    split at found'
    · next same =>
        cases found'
        subst same
        obtain ⟨none, nobody⟩ := accounts.elsewhere _ fresh
        rw [posts_append, List.append_eq_nil_iff] at nobody
        rw [none, posted, nobody.1, nobody.2, if_pos rfl, List.append_nil, List.nil_append,
          ← accounts.fixed]
        exact ⟨.opened opens, .opened opens⟩
    · next differs =>
        rw [elsewhere differs]
        exact accounts.shells number shell' found'
  · intro number missing
    rw [Service.shell?, found] at missing
    split at missing
    · cases missing
    · next differs =>
        rw [dealingsAt_append, nothing, List.append_nil, elsewhere differs]
        exact accounts.elsewhere number missing
  · intro number shell' found'
    rw [Service.shell?, found] at found'
    split at found'
    · next same => exact same ▸ Nat.lt_succ_self _
    · exact Nat.lt_succ_of_lt (accounts.numbers number shell' found')
  · intro number job submitted
    rw [dealingsAt_append, nothing, List.append_nil] at submitted
    exact Nat.lt_succ_of_lt (accounts.submitted number job submitted)
  · intro number admits
    cases admits
    refine ⟨shell, by rw [Service.shell?, found, if_pos rfl], ?_⟩
    unfold Shell.start at opens
    split at opens
    · cases opens
    · split at opens
      · cases opens
      · cases opens
        rfl

theorem Service.Does.accounts {governing : Bool} {before after : Service} {deeds : List Deed}
    (does : Service.Does governing before deeds after) {options : ServiceOptions}
    {earlier : List Deed} {tasks : List Activity}
    (accounts : Accounts options earlier before (before.spawned.map Spawned.activity ++ tasks)) :
    Accounts options (earlier ++ deeds) after (after.spawned.map Spawned.activity ++ tasks) := by
  induction does generalizing earlier with
  | rests rests =>
      exact accounts.still (fun _ => rfl) rests.options rests.shells rests.admission rests.numbers
        (fun _ => by rw [rests.spawned])
  | governs governs =>
      refine accounts.still (fun _ => rfl) governs.options governs.shells governs.admission
        governs.numbers ?_
      intro number
      rw [posts_append, posts_append, ← posts_filter, governs.workers, posts_filter]
  | @accepts governing service number shell shell' request admits found answer =>
      obtain ⟨isOpen, -, rfl⟩ := (shell.submit_eq_ok_iff shell' _).mp answer
      exact accounts.dealAside found (.accepts _ _ answer) (accounts.unused number) ⟨rfl, rfl⟩
        ⟨rfl, rfl⟩ rfl (service.shell?_withShell found _) (.inr ⟨rfl, fun _ => isOpen⟩)
        (Nat.le_succ _) (by simp [Dealing.submitted?, Service.withShell])
  | @isBusy governing service number shell request admits found answer =>
      exact accounts.dealAside found (.isBusy _ answer) (accounts.unused number) ⟨rfl, rfl⟩
        ⟨rfl, rfl⟩ rfl (service.shell?_withShell found _) (.inr ⟨rfl, fun isOpen => isOpen⟩)
        (Nat.le_succ _) (by simp [Dealing.submitted?, Service.withShell])
  | @isClosed governing service number shell request admits found answer =>
      refine accounts.dealAside found (.isClosed _ answer) (accounts.unused number) ⟨rfl, rfl⟩
        ⟨rfl, rfl⟩ rfl ?_ (.inr ⟨rfl, fun isOpen => isOpen⟩)
        (Nat.le_succ _) (by simp [Dealing.submitted?])
      intro other
      split
      · next same => exact same ▸ found
      · rfl
  | turnsAway shut =>
      exact accounts.still (fun _ => rfl) rfl rfl rfl (Nat.le_refl _) (fun _ => rfl)
  | @leaves governing service ticket shell found =>
      exact accounts.dealAside found (.leaves _) trivial ⟨rfl, rfl⟩ ⟨rfl, rfl⟩ rfl
        (service.shell?_withShell found _) (.inr ⟨rfl, fun isOpen => isOpen⟩) (Nat.le_refl _)
        (by simp [Dealing.submitted?])
  | @closes service number shell admits found =>
      exact accounts.dealAside found .closes trivial ⟨rfl, rfl⟩ ⟨rfl, rfl⟩ rfl
        (service.shell?_withShell found _) (.inl rfl) (Nat.le_refl _)
        (by simp [Dealing.submitted?])
  | forgets shut =>
      -- Admission is shut by this, so the last clause has nothing to say.
      obtain ⟨fixed, shells, elsewhere, numbers, submitted, admits⟩ := accounts
      simp only [List.append_nil]
      exact ⟨fixed, shells, elsewhere, numbers, submitted, by simp⟩
  | opens opens => exact accounts.opens opens
  | followed _ _ ih ih' =>
      rw [← List.append_assoc]
      exact ih' (ih accounts)

/-! ## Workers -/

theorem posts_workers (id : WorkerId) (others : List Activity) (number : Nat)
    (phases : List WorkerPhase) :
    posts number (phases.map (.worker id) ++ others) =
      (if id.shell = number then phases.map fun phase => (id.worker, phase.post) else []) ++
        posts number others := by
  induction phases with
  | nil => simp [posts]
  | cons phase rest ih =>
      rw [List.map_cons, List.cons_append, posts_cons, ih]
      by_cases same : id.shell = number
      · simp [same, Activity.post?]
      · simp [same, Activity.post?]

section Workers

variable {id : WorkerId} {others : List Activity}

theorem Service.updateShell_of_found (service : Service) {number : Nat} {shell : Shell}
    (found : service.shell? number = some shell) (update : Shell → Shell) :
    service.updateShell number update = service.withShell number (update shell) := by
  rw [updateShell, found]

namespace Accounts

variable {options : ServiceOptions} {deeds : List Deed} {service after : Service}
  {phase : WorkerPhase} {job : Job}

theorem found (accounts : Accounts options deeds service (.worker id phase :: others)) :
    ∃ shell, service.shell? id.shell = some shell ∧
      Shell.Life options.admission (dealingsAt id.shell deeds) shell ∧
      Crew options.admission (dealingsAt id.shell deeds) shell
        ((id.worker, phase.post) :: posts id.shell others) := by
  have posted : posts id.shell (.worker id phase :: others) =
      (id.worker, phase.post) :: posts id.shell others := by
    simpa using posts_workers id others id.shell [phase]
  cases known : service.shell? id.shell with
  | none =>
      obtain ⟨-, nobody⟩ := accounts.elsewhere id.shell known
      rw [posted] at nobody
      cases nobody
  | some shell =>
      obtain ⟨life, crew⟩ := accounts.shells id.shell shell known
      exact ⟨shell, rfl, life, posted ▸ crew⟩

theorem dealOwn (accounts : Accounts options deeds service (.worker id phase :: others))
    {shell shell' : Shell} {dealing : Dealing} (found : service.shell? id.shell = some shell)
    (deals : shell.Deals dealing shell')
    (fits : dealing.Fits options.admission (dealingsAt id.shell deeds))
    (phases : List WorkerPhase)
    (crew : Crew options.admission (dealingsAt id.shell deeds ++ [dealing]) shell'
      ((phases.map fun phase => (id.worker, phase.post)) ++ posts id.shell others))
    (isOpen : shell'.isOpen = shell.isOpen) (own : dealing.submitted? = none) :
    Accounts options (deeds ++ [.dealt id.shell dealing]) (service.withShell id.shell shell')
      (phases.map (.worker id) ++ others) := by
  refine accounts.deal found deals fits ?_ ?_ rfl (service.shell?_withShell found shell')
    (.inr ⟨rfl, fun open' => isOpen ▸ open'⟩) (Nat.le_refl _) (by simp [own])
  · rw [posts_workers, if_pos rfl]
    exact crew
  · intro other differs
    have before := posts_workers id others other [phase]
    rw [if_neg (Ne.symm differs)] at before
    rw [posts_workers, if_neg (Ne.symm differs)]
    exact before.symm

theorem arrives (accounts : Accounts options deeds service (.worker id .fresh :: others)) :
    Accounts options (deeds ++ [.dealt id.shell (.arrived id.worker)])
      (service.updateShell id.shell fun shell => shell.arrive id.worker)
      (.worker id .idle :: others) := by
  obtain ⟨shell, found, life, crew⟩ := accounts.found
  rw [service.updateShell_of_found found]
  refine accounts.dealOwn found (.arrives id.worker) ⟨?_, ?_⟩ [.idle] crew.arrives rfl rfl
  · rw [← List.mem_range]
    exact crew.roll.subset (List.mem_append_left _ List.mem_cons_self)
  · exact crew.coming id.worker List.mem_cons_self

theorem ends (accounts : Accounts options deeds service (.worker id .idle :: others))
    {shell : Shell} (found : service.shell? id.shell = some shell)
    (first : shell.idle.head? = some id.worker) (done : shell.isDone = true) :
    Accounts options (deeds ++ [.dealt id.shell (.dismissed id.worker)])
      (service.withShell id.shell (shell.dismiss id.worker)) others := by
  obtain ⟨shell', found', life, crew⟩ := accounts.found
  rw [found] at found'
  cases found'
  exact accounts.dealOwn found (.dismisses id.worker first done) trivial []
    (crew.dismisses life.conserves.staffed.idle first) rfl rfl

theorem takes (accounts : Accounts options deeds service (.worker id .idle :: others))
    {shell shell' : Shell} (found : service.shell? id.shell = some shell)
    (took : shell.take id.worker = some (job, shell')) (evaluation : Evaluation) :
    Accounts options (deeds ++ [.dealt id.shell (.took id.worker job)])
      (service.withShell id.shell shell')
      (.worker id (.evaluating job evaluation) :: others) := by
  obtain ⟨shell'', found', life, crew⟩ := accounts.found
  rw [found] at found'
  cases found'
  have isOpen : shell'.isOpen = shell.isOpen := by
    obtain ⟨idle, queue, -, -, rfl⟩ := (shell.take_eq_some_iff shell' id.worker job).mp took
    rfl
  exact accounts.dealOwn found (.takes id.worker job shell' took) trivial
    [.evaluating job evaluation]
    (crew.takes took) isOpen rfl

theorem finishes {evaluation : Evaluation} (result : FinalResult)
    (accounts : Accounts options deeds service
      (.worker id (.evaluating job evaluation) :: others)) :
    Accounts options (deeds ++ [.dealt id.shell (.finished id.worker job result)])
      (service.updateShell id.shell fun shell =>
        (shell.finish id.worker job result).arrive id.worker)
      (.worker id .idle :: others) := by
  obtain ⟨shell, found, life, crew⟩ := accounts.found
  rw [service.updateShell_of_found found]
  have atWork : (id.worker, job) ∈ shell.running := crew.busy.mem_iff.mp List.mem_cons_self
  exact accounts.dealOwn found (.finishes id.worker job result atWork) trivial [.idle]
    (crew.finishes life.conserves.staffed.running result) rfl rfl

theorem looks {activities activities' : List Activity}
    (accounts : Accounts options deeds service activities) {look : Look}
    {progress : Progress FinalResult Evaluation} (here : look.service = service)
    (ran : look.run = (after, progress))
    (posted : ∀ number, posts number activities' = posts number activities) :
    Accounts options (deeds ++ [.looked look]) after activities' := by
  have evaluates := Look.evaluatesTo ran
  rw [here] at evaluates
  exact accounts.still (fun _ => rfl) evaluates.options evaluates.shells evaluates.admission
    evaluates.numbers posted

end Accounts

theorem WorkerTurn.accounts {now : Nat} {phase : WorkerPhase} {service after : Service}
    {deeds : List Deed} {progress : Progress Unit WorkerPhase}
    (turn : WorkerTurn now id phase service deeds after progress) {options : ServiceOptions}
    {earlier : List Deed}
    (accounts : Accounts options earlier service (.worker id phase :: others)) :
    Accounts options (earlier ++ deeds) after (progress.rest.map (.worker id) ++ others) := by
  induction turn generalizing earlier with
  | arrives rest ih =>
      rw [List.append_cons]
      exact ih accounts.arrives
  | stands =>
      rw [List.append_nil]
      exact accounts
  | lost missing =>
      -- A worker whose shell is gone is in nobody's crew.
      obtain ⟨shell, found, -⟩ := accounts.found
      rw [missing] at found
      cases found
  | ends found first done => exact accounts.ends found first done
  | @begins service after shell shell' job evaluation found took waits =>
      rw [List.append_cons]
      exact (accounts.takes found took evaluation).looks rfl waits (fun _ => rfl)
  | serves found took done rest ih =>
      rw [List.append_cons, List.append_cons, List.append_cons]
      have looked := (accounts.takes found took default).looks rfl done (fun _ => rfl)
      exact ih (looked.finishes _)
  | resumes waits => exact accounts.looks rfl waits (fun _ => rfl)
  | finishes done rest ih =>
      rw [List.append_cons, List.append_cons]
      have looked := accounts.looks rfl done (fun _ => rfl)
      exact ih (looked.finishes _)

end Workers

/-! ## Whole runs -/

namespace World

/-- Everything that goes on, also what has not taken its place yet. -/
def activities (world : World) : List Activity :=
  world.service.spawned.map Spawned.activity ++ world.tasks

variable {world next : World} {happening : Happening} {deeds later : List Deed}
  {options : ServiceOptions}

theorem posts_turn (number : Nat) (before left right : List Activity) (activity : Activity)
    (rest : List Activity) (calm : activity.post? number = none)
    (calm' : ∀ activity ∈ rest, activity.post? number = none) :
    posts number (before ++ (left ++ rest ++ right)) =
      posts number (before ++ (left ++ activity :: right)) := by
  simp [posts_cons, calm, posts_none number calm']

theorem turn_perm (before left rest right : List Activity) :
    (before ++ (left ++ rest ++ right)).Perm (rest ++ (before ++ (left ++ right))) := by
  rw [List.append_assoc left]
  exact ((List.perm_append_comm_assoc _ _ _).append_left _).trans
    (List.perm_append_comm_assoc _ _ _)

theorem posts_calmTurn {before left right : List Activity} {activity : Activity}
    {service after : Service} {surroundings : Surroundings} {now : Nat}
    {progress : Progress Answer Activity} (other : activity.isLooking = false)
    (ran : activity.part service surroundings now = (after, progress)) (number : Nat) :
    posts number (before ++ (left ++ progress.rest ++ right)) =
      posts number (before ++ (left ++ activity :: right)) := by
  refine posts_turn number _ left right activity _ (activity.post?_of_calm number other) ?_
  intro activity' own
  have kin := Activity.rest_kin service surroundings now ran activity' own
  exact activity'.post?_of_calm number (kin.isLooking.trans other)

theorem post?_of_progress (look : Look) (number : Nat) :
    ∀ activity ∈ look.progress.rest, activity.post? number = none := by
  intro activity own
  rw [Look.progress, Progress.rest_map] at own
  obtain ⟨evaluation, -, rfl⟩ := List.mem_map.mp own
  rfl

theorem Step.accounts (step : Step world happening next)
    (acts : Acts world happening later next.service)
    (accounts : Accounts options deeds world.service world.activities) :
    Accounts options (deeds ++ later) next.service next.activities := by
  have rests {after : Service} (rests : world.service.Rests after) {tasks : List Activity}
      (posted : ∀ number, posts number tasks = posts number world.tasks) :
      Accounts options (deeds ++ []) after (after.spawned.map Spawned.activity ++ tasks) := by
    refine accounts.still (fun _ => rfl) rests.options rests.shells rests.admission rests.numbers ?_
    intro number
    rw [World.activities, posts_append, posts_append, posted, rests.spawned]
  cases step with
  | time later' forward =>
      cases acts with
      | rests quiet rest => exact rests rest (fun _ => rfl)
  | source source =>
      cases acts with
      | rests quiet rest => exact rests rest (fun _ => rfl)
  | registry registry =>
      cases acts with
      | rests quiet rest => exact rests rest (fun _ => rfl)
  | loopStarts service started =>
      cases acts with
      | rests quiet rest => cases quiet
      | loopStarts governs => exact (Service.Does.governs governs).accounts accounts
  | joins =>
      cases acts with
      | rests quiet rest => cases quiet
      | joins =>
          have moved := accounts.perm List.perm_append_comm
          exact moved.still (fun _ => rfl) rfl rfl rfl (Nat.le_refl _) (fun _ => rfl)
  | begins activity fresh =>
      cases acts with
      | rests quiet rest =>
          refine rests rest ?_
          intro number
          have calm : activity.post? number = none := by
            cases activity <;> first | rfl | cases fresh
          simp [calm, posts]
  | turns left right activity service progress split ran =>
      rw [World.activities, split] at accounts
      cases acts with
      | rests quiet rest => cases quiet
      | @worker id phase deeds after progress turn =>
          rw [List.append_cons] at accounts
          refine (turn.accounts (accounts.perm (turn_perm _ left [_] right))).perm ?_
          rw [World.activities, Progress.rest_map, turn.attends.spawned]
          exact (turn_perm _ left _ right).symm
      | evaluates look service' now =>
          rw [World.activities, look.evaluates.spawned, service']
          exact accounts.looks service' rfl fun number =>
            posts_turn number _ left right _ _ rfl (post?_of_progress look number)
      | does other does =>
          exact (does.does.accounts accounts).repost (posts_calmTurn other ran)
  | overlooks left right number phase phase' cache journal split ran =>
      cases acts with
      | rests quiet rest => cases quiet
      | does other does =>
          refine (does.does.accounts accounts).repost ?_
          intro number
          rw [World.activities, split]
          simp [posts_cons, Activity.post?]
  | drops left right activity split droppable =>
      cases acts with
      | rests quiet rest => cases quiet
      | drops does =>
          refine (does.does.accounts accounts).repost ?_
          intro number
          have calm : activity.post? number = none := by
            cases activity <;> first | rfl | cases droppable
          rw [World.activities, split]
          simp [posts_cons, calm]

/-- Nothing was done yet in a service with some options. -/
def IsNew (options : ServiceOptions) (world : World) : Prop :=
  ∃ source engine points handlers startedAt surroundings,
    world = .start (.new options source engine points handlers startedAt) surroundings

/-- Whatever happens in a service from its beginning on, its deeds account for its shells. -/
theorem Ledger.accounts {beginning : World} {happenings : List Happening}
    (ledger : Ledger beginning happenings world deeds) (new : beginning.IsNew options) :
    Accounts options deeds world.service world.activities := by
  obtain ⟨source, engine, points, handlers, startedAt, surroundings, rfl⟩ := new
  induction ledger with
  | start =>
      refine ⟨rfl, ?_, fun _ _ => ⟨rfl, rfl⟩, ?_, ?_, ?_⟩
      · intro number shell found
        cases found
      · intro number shell found
        cases found
      · intro number job submitted
        cases submitted
      · intro number admits
        cases admits
  | step _ step acts ih => exact step.accounts acts ih

end World

end DecisionPoint
