import DecisionPoint.Proofs.Admission.Life
import DecisionPoint.Proofs.Schedule.World

/-!
# The crew of a shell

Each worker of a shell is somewhere: it has not come yet, stands in line, is at work, or has ended.
Where the activities of the workers are agrees with what the shell knows of them.
-/

set_option autoImplicit false

namespace DecisionPoint

inductive Post where
  | coming
  | idle
  | busy (job : Job)

def WorkerPhase.post : WorkerPhase → Post
  | fresh => .coming
  | idle => .idle
  | evaluating job _ => .busy job

def Activity.post? (number : Nat) : Activity → Option (Nat × Post)
  | worker id phase => if id.shell = number then some (id.worker, phase.post) else none
  | _ => none

def posts (number : Nat) (activities : List Activity) : List (Nat × Post) :=
  activities.filterMap (Activity.post? number)

theorem mem_posts {number worker : Nat} {post : Post} {activities : List Activity} :
    (worker, post) ∈ posts number activities ↔
      ∃ phase, .worker ⟨number, worker⟩ phase ∈ activities ∧ phase.post = post := by
  rw [posts, List.mem_filterMap]
  constructor
  · rintro ⟨activity, mem, here⟩
    cases activity with
    | worker id phase =>
        simp only [Activity.post?, Option.ite_none_right_eq_some, Option.some.injEq,
          Prod.mk.injEq] at here
        obtain ⟨rfl, rfl, same⟩ := here
        exact ⟨phase, mem, same⟩
    | _ => cases here
  · rintro ⟨phase, mem, rfl⟩
    exact ⟨_, mem, by simp [Activity.post?]⟩

def idle? : Nat × Post → Option Nat
  | (worker, .idle) => some worker
  | _ => none

def busy? : Nat × Post → Option (Nat × Job)
  | (worker, .busy job) => some (worker, job)
  | _ => none

/-- What a shell knows of its workers is where they are. -/
structure Crew (options : AdmissionOptions) (history : List Dealing) (shell : Shell)
    (posts : List (Nat × Post)) : Prop where
  roll : (posts.map Prod.fst ++ workersDismissed history).Perm
    (List.range options.maxRequests.toNat)
  coming : ∀ worker, (worker, .coming) ∈ posts → worker ∉ workersArrived history
  idle : (posts.filterMap idle?).Perm shell.idle
  busy : (posts.filterMap busy?).Perm shell.running

namespace Crew

variable {options : AdmissionOptions} {history : List Dealing} {shell after : Shell}
  {others : List (Nat × Post)} {worker : Nat} {job : Job}

theorem perm {posts posts' : List (Nat × Post)} (crew : Crew options history shell posts)
    (same : posts.Perm posts') : Crew options history shell posts' := by
  obtain ⟨roll, coming, idle, busy⟩ := crew
  refine ⟨?_, ?_, (same.filterMap idle?).symm.trans idle, (same.filterMap busy?).symm.trans busy⟩
  · exact ((same.map Prod.fst).append_right _).symm.trans roll
  · intro worker mem
    exact coming worker (same.mem_iff.mpr mem)

theorem stands {posts : List (Nat × Post)} (crew : Crew options history shell posts)
    (idle : worker ∈ shell.idle) : (worker, .idle) ∈ posts := by
  rw [← crew.idle.mem_iff] at idle
  obtain ⟨⟨worker', post⟩, mem, same⟩ := List.mem_filterMap.mp idle
  cases post with
  | idle =>
      cases same
      exact mem
  | _ => cases same

theorem opened (opens : Shell.start options = .ok shell) :
    Crew options [] shell ((List.range shell.alive).map fun worker => (worker, .coming)) := by
  have none {β : Type} (f : Nat × Post → Option β) (nothing : ∀ worker, f (worker, .coming) = none)
      (workers : List Nat) :
      (workers.map fun worker => (worker, Post.coming)).filterMap f = [] := by
    simp [List.filterMap_map, nothing]
  unfold Shell.start at opens
  split at opens
  · cases opens
  · split at opens
    · cases opens
    · cases opens
      refine ⟨?_, by simp [workersArrived], ?_, ?_⟩
      · simp [workersDismissed, List.map_map, Function.comp_def]
      · rw [none idle? (fun _ => rfl)]
      · rw [none busy? (fun _ => rfl)]

theorem distinct (crew : Crew options history shell ((worker, .coming) :: others)) :
    worker ∉ others.map Prod.fst := by
  have once := (crew.roll.nodup_iff).mpr List.nodup_range
  rw [List.map_cons, List.cons_append, List.nodup_cons] at once
  exact fun mem => once.1 (List.mem_append_left _ mem)

theorem still {posts : List (Nat × Post)} {dealing : Dealing}
    (crew : Crew options history shell posts) (arrived : dealing.arrived? = none)
    (dismissed : dealing.dismissed? = none) (idle : after.idle = shell.idle)
    (running : after.running = shell.running) :
    Crew options (history ++ [dealing]) after posts := by
  obtain ⟨roll, coming, idle', busy⟩ := crew
  refine ⟨?_, ?_, idle ▸ idle', running ▸ busy⟩
  · simpa [dismissed] using roll
  · simpa [arrived] using coming

theorem arrives (crew : Crew options history shell ((worker, .coming) :: others)) :
    Crew options (history ++ [.arrived worker]) (shell.arrive worker)
      ((worker, .idle) :: others) := by
  have apart := crew.distinct
  obtain ⟨roll, coming, idle, busy⟩ := crew
  refine ⟨?_, ?_, ?_, busy⟩
  · simpa [Dealing.dismissed?] using roll
  · intro other mem
    have later : (other, Post.coming) ∈ others := by simpa using mem
    have differs : other ≠ worker := by
      intro same
      exact apart (same ▸ List.mem_map.mpr ⟨_, later, rfl⟩)
    have new := coming other (List.mem_cons_of_mem _ later)
    simpa [Dealing.arrived?, differs] using new
  · exact (idle.cons worker).trans (List.perm_append_singleton worker shell.idle).symm

theorem takes (crew : Crew options history shell ((worker, .idle) :: others))
    (took : shell.take worker = some (job, after)) :
    Crew options (history ++ [.took worker job]) after ((worker, .busy job) :: others) := by
  obtain ⟨idle', queue, line, -, rfl⟩ := (shell.take_eq_some_iff after worker job).mp took
  obtain ⟨roll, coming, idle, busy⟩ := crew
  refine ⟨?_, ?_, ?_, ?_⟩
  · simpa [Dealing.dismissed?] using roll
  · intro other mem
    have later : (other, Post.coming) ∈ others := by simpa using mem
    simpa [Dealing.arrived?] using coming other (List.mem_cons_of_mem _ later)
  · rw [line] at idle
    exact List.Perm.cons_inv idle
  · exact (busy.cons (worker, job)).trans (List.perm_append_singleton _ shell.running).symm

theorem finishes (crew : Crew options history shell ((worker, .busy job) :: others))
    (apart : (shell.running.map Prod.fst).Nodup) (result : FinalResult) :
    Crew options (history ++ [.finished worker job result])
      ((shell.finish worker job result).arrive worker) ((worker, .idle) :: others) := by
  obtain ⟨roll, coming, idle, busy⟩ := crew
  have atWork : (worker, job) ∈ shell.running := busy.mem_iff.mp List.mem_cons_self
  refine ⟨?_, ?_, ?_, ?_⟩
  · simpa [Dealing.dismissed?] using roll
  · intro other mem
    have later : (other, Post.coming) ∈ others := by simpa using mem
    simpa [Dealing.arrived?] using coming other (List.mem_cons_of_mem _ later)
  · exact (idle.cons worker).trans (List.perm_append_singleton worker shell.idle).symm
  · exact (busy.trans (Shell.perm_running shell.running apart worker job atWork)).cons_inv

theorem dismisses (crew : Crew options history shell ((worker, .idle) :: others))
    (apart : shell.idle.Nodup) (first : shell.idle.head? = some worker) :
    Crew options (history ++ [.dismissed worker]) (shell.dismiss worker) others := by
  obtain ⟨rest, line⟩ := List.head?_eq_some_iff.mp first
  obtain ⟨roll, coming, idle, busy⟩ := crew
  refine ⟨?_, ?_, ?_, busy⟩
  · simp only [workersDismissed_snoc, Dealing.dismissed?, Option.toList]
    refine .trans ?_ roll
    rw [List.map_cons, ← List.append_assoc]
    exact List.perm_append_singleton worker _
  · intro other mem
    simpa [Dealing.arrived?] using coming other (List.mem_cons_of_mem _ mem)
  · rw [line] at idle
    simp only [Shell.dismiss, Shell.filter_idle line apart]
    exact List.Perm.cons_inv idle

end Crew

end DecisionPoint
