import DecisionPoint.Proofs.Schedule.Fetching

/-!
# Three views of the policy

The snapshot in effect, the number of snapshots that were published, and what the status tells of
the policy are kept in different places.  They are the views of one list: the snapshots that were
published, in order.  The list is read off the history of the cache, which every run has.
-/

set_option autoImplicit false

namespace DecisionPoint

/-- The history of a run: each step adds the events of the work that it does. -/
inductive World.Chronicle (beginning : World) :
    List Happening → World → List RefreshEvent → Prop where
  | start : Chronicle beginning [] beginning []
  | step {happenings : List Happening} {happening : Happening} {world next : World}
      {history events : List RefreshEvent} {holds holds' : Bool}
      (earlier : Chronicle beginning happenings world history)
      (step : World.Step world happening next)
      (moves : World.Moves world next events holds holds') :
      Chronicle beginning (happenings ++ [happening]) next (history ++ events)

/-- The snapshots that were published in a history, in order. -/
def publishedIn (history : List RefreshEvent) : List PolicySnapshot :=
  history.filterMap RefreshEvent.snapshot?

theorem publishedIn_append (history events : List RefreshEvent) :
    publishedIn (history ++ events) = publishedIn history ++ publishedIn events :=
  List.filterMap_append

/-- The three views are those of a list of published snapshots. -/
structure Views (reporting : Bool) (published : List PolicySnapshot) (state : CacheState) :
    Prop where
  reports : state.1.reports = reporting
  generation : state.1.generation = .ofNat published.length
  current : state.1.current = published.getLast?
  policy : reporting = true → state.2.status.policy = published.getLast?.map PolicyInfo.ofSnapshot

/-- None of the three views changes. -/
structure KeepsViews (before after : CacheState) : Prop where
  current : after.1.current = before.1.current
  generation : after.1.generation = before.1.generation
  policy : after.2.status.policy = before.2.status.policy

theorem Untouched.keepsViews {before after : CacheState} (untouched : Untouched before after) :
    KeepsViews before after :=
  ⟨untouched.current, untouched.generation, untouched.policy⟩

/-- A snapshot takes effect: it is the current one, it is counted, and the status tells of it. -/
structure Publishes (before after : CacheState) (snapshot : PolicySnapshot) : Prop where
  current : after.1.current = some snapshot
  generation : after.1.generation = before.1.generation + 1
  policy : before.1.reports = true → after.2.status.policy = some (.ofSnapshot snapshot)

theorem PolicyCache.concluded_publishes (cache : PolicyCache) (journal : Journal)
    (source : ScriptedSource) (snapshot : PolicySnapshot) :
    Publishes (cache, journal) ({ cache with source := source }.concluded journal (.ok snapshot))
      snapshot where
  current := rfl
  generation := rfl
  policy told := by
    have reportsLoads : cache.reports = true := told
    simp [PolicyCache.concluded, PolicyCache.conclude, reportsLoads, Journal.refreshed,
      Journal.policyLoaded, ServiceStatus.updatePolicy]

section Views

variable {reporting : Bool} {published : List PolicySnapshot} {before after : CacheState}

/-- Events that publish nothing leave the list as it is. -/
theorem Views.kept (views : Views reporting published before) (keeps : KeepsViews before after)
    (same : after.1.reports = before.1.reports) : Views reporting (published ++ []) after := by
  rw [List.append_nil]
  exact ⟨same.trans views.reports, keeps.generation.trans views.generation,
    keeps.current.trans views.current, fun told => keeps.policy.trans (views.policy told)⟩

theorem Views.publish (views : Views reporting published before) {snapshot : PolicySnapshot}
    (publishes : Publishes before after snapshot) (same : after.1.reports = before.1.reports) :
    Views reporting (published ++ [snapshot]) after where
  reports := same.trans views.reports
  generation := by
    rw [publishes.generation, views.generation, List.length_append, UInt64.ofNat_add]
    rfl
  current := by
    rw [List.getLast?_concat]
    exact publishes.current
  policy told := by
    rw [List.getLast?_concat]
    exact publishes.policy (views.reports.trans told)

theorem Drives.views {holds holds' : Bool} {events : List RefreshEvent}
    (drives : Drives holds before events holds' after) (views : Views reporting published before) :
    Views reporting (published ++ publishedIn events) after := by
  induction drives generalizing published with
  | rests untouched => exact views.kept untouched.keepsViews untouched.reports
  | refused taken => exact views.kept ⟨rfl, rfl, rfl⟩ rfl
  | begins free =>
      unfold PolicyCache.acquire at free
      split at free
      · cases free
      · cases free
        exact views.kept ⟨rfl, rfl, rfl⟩ rfl
  | @answered cache journal =>
      cases cache.source.answer.2 with
      | ok snapshot => exact views.publish (cache.concluded_publishes journal _ snapshot) rfl
      | error fault => exact views.kept ⟨rfl, rfl, rfl⟩ rfl
  | timedOut limit => exact views.kept ⟨rfl, rfl, rfl⟩ rfl
  | brokenOff => exact views.kept ⟨rfl, rfl, rfl⟩ rfl
  | followed _ _ first second =>
      rw [publishedIn_append, ← List.append_assoc]
      exact second (first views)

theorem World.Chronicle.views {beginning world : World} {happenings : List Happening}
    {history : List RefreshEvent} (chronicle : Chronicle beginning happenings world history)
    (views : Views reporting [] beginning.state) :
    Views reporting (publishedIn history) world.state := by
  induction chronicle with
  | start => exact views
  | step _ _ moves ih =>
      rw [publishedIn_append]
      exact moves.drives.views ih

end Views

theorem World.Run.chronicle {beginning world : World} {happenings : List Happening}
    (run : World.Run beginning happenings world) :
    ∃ history, Chronicle beginning happenings world history := by
  induction run with
  | start => exact ⟨[], .start⟩
  | step _ step ih =>
      obtain ⟨history, earlier⟩ := ih
      obtain ⟨events, holds, holds', moves⟩ := step.moves
      exact ⟨history ++ events, earlier.step step moves⟩

/-! ## Coherence -/

/-- The snapshot in effect, the count and the status are those of the published snapshots. -/
structure Service.Coherent (service : Service) (reporting : Bool)
    (published : List PolicySnapshot) : Prop where
  generation : published.length < UInt64.size → service.cache.generation.toNat = published.length
  empty : published.length < UInt64.size →
    (service.cache.current = none ↔ service.cache.generation = 0)
  current : service.cache.current = published.getLast?
  policy : reporting = true →
    service.journal.status.policy = service.cache.current.map fun snapshot =>
      ⟨snapshot.policySetId, snapshot.version, snapshot.loadedAt⟩

theorem Views.coherent {reporting : Bool} {published : List PolicySnapshot} {service : Service}
    (views : Views reporting published (service.cache, service.journal)) :
    service.Coherent reporting published := by
  have counted : service.cache.generation = .ofNat published.length := views.generation
  have inEffect : service.cache.current = published.getLast? := views.current
  have count : published.length < UInt64.size →
      service.cache.generation.toNat = published.length := by
    intro small
    rw [counted]
    exact UInt64.toNat_ofNat_of_lt' small
  refine ⟨count, ?_, inEffect, ?_⟩
  · intro small
    rw [inEffect, List.getLast?_eq_none_iff, ← List.length_eq_zero_iff, ← count small,
      ← UInt64.toNat_inj]
    rfl
  · intro told
    rw [inEffect]
    exact views.policy told

/-- A refresh that publishes nothing changes nothing. -/
structure Service.FailuresKeepViews (service : Service) : Prop where
  refresh : ∀ now reason,
    (service.cache.refresh service.journal now).2.2 = .done (.failed reason) →
      KeepsViews (service.cache, service.journal)
        ((service.cache.refresh service.journal now).1,
          (service.cache.refresh service.journal now).2.1)
  resume : ∀ now wait reason,
    (service.cache.resume service.journal now wait).2.2 = .done (.failed reason) →
      KeepsViews (service.cache, service.journal)
        ((service.cache.resume service.journal now wait).1,
          (service.cache.resume service.journal now wait).2.1)
  drop : ∀ activity : Activity,
    KeepsViews (service.cache, service.journal)
      ((activity.dropFrom service).cache, (activity.dropFrom service).journal)

/-- A refresh that reports success has put a snapshot into effect, the one that it reports. -/
structure Service.SuccessesPublish (service : Service) : Prop where
  refresh : ∀ now policySetId version,
    (service.cache.refresh service.journal now).2.2 = .done (.published policySetId version) →
      ∃ snapshot : PolicySnapshot,
        snapshot.policySetId = policySetId ∧ snapshot.version = version ∧
          Publishes (service.cache, service.journal)
            ((service.cache.refresh service.journal now).1,
              (service.cache.refresh service.journal now).2.1) snapshot
  resume : ∀ now wait policySetId version,
    (service.cache.resume service.journal now wait).2.2 = .done (.published policySetId version) →
      ∃ snapshot : PolicySnapshot,
        snapshot.policySetId = policySetId ∧ snapshot.version = version ∧
          Publishes (service.cache, service.journal)
            ((service.cache.resume service.journal now wait).1,
              (service.cache.resume service.journal now wait).2.1) snapshot

theorem PolicyCache.resume_failed_keepsViews (cache : PolicyCache) (journal : Journal) (now : Nat)
    (wait : FetchWait) (reason : String)
    (failed : (cache.resume journal now wait).2.2 = .done (.failed reason)) :
    KeepsViews (cache, journal)
      ((cache.resume journal now wait).1, (cache.resume journal now wait).2.1) := by
  unfold resume at failed ⊢
  by_cases answers : hasCome now wait.answersAt = true
  · simp only [if_pos answers] at failed ⊢
    cases fetched : cache.source.answer.2 with
    | ok snapshot => simp [conclude, fetched] at failed
    | error fault => exact ⟨rfl, rfl, rfl⟩
  · simp only [if_neg answers] at failed ⊢
    by_cases late : hasCome now wait.deadline = true
    · simp only [if_pos late]
      exact ⟨rfl, rfl, rfl⟩
    · simp only [if_neg late]
      exact ⟨rfl, rfl, rfl⟩

theorem PolicyCache.resume_published (cache : PolicyCache) (journal : Journal) (now : Nat)
    (wait : FetchWait) (policySetId version : String)
    (published : (cache.resume journal now wait).2.2 = .done (.published policySetId version)) :
    ∃ snapshot : PolicySnapshot,
      snapshot.policySetId = policySetId ∧ snapshot.version = version ∧
        Publishes (cache, journal)
          ((cache.resume journal now wait).1, (cache.resume journal now wait).2.1) snapshot := by
  unfold resume at published ⊢
  by_cases answers : hasCome now wait.answersAt = true
  · simp only [if_pos answers] at published ⊢
    cases fetched : cache.source.answer.2 with
    | ok snapshot =>
        rw [fetched] at published
        cases published
        exact ⟨snapshot, rfl, rfl, cache.concluded_publishes journal _ snapshot⟩
    | error fault =>
        rw [fetched] at published
        cases published
  · simp only [if_neg answers] at published
    by_cases late : hasCome now wait.deadline = true
    · simp only [if_pos late] at published
      cases published
    · simp only [if_neg late] at published
      cases published

theorem Service.failuresKeepViews (service : Service) : service.FailuresKeepViews where
  refresh now reason failed := by
    unfold PolicyCache.refresh at failed ⊢
    cases free : service.cache.acquire with
    | none => exact ⟨rfl, rfl, rfl⟩
    | some acquired =>
        simp only [free] at failed
        have kept := acquired.resume_failed_keepsViews service.journal now _ reason failed
        unfold PolicyCache.acquire at free
        split at free
        · cases free
        · cases free
          exact ⟨kept.current, kept.generation, kept.policy⟩
  resume now wait reason failed :=
    service.cache.resume_failed_keepsViews service.journal now wait reason failed
  drop activity := by
    unfold Activity.dropFrom
    split
    · exact ⟨rfl, rfl, rfl⟩
    · split
      · exact (service.leave_spares _).leaves.keepsViews
      · exact (service.leave_spares _).leaves.keepsViews
      · exact (Untouched.refl _).keepsViews

theorem Service.successesPublish (service : Service) : service.SuccessesPublish where
  refresh now policySetId version published := by
    unfold PolicyCache.refresh at published ⊢
    cases free : service.cache.acquire with
    | none =>
        rw [free] at published
        cases published
    | some acquired =>
        simp only [free] at published
        obtain ⟨snapshot, id, number, publishes⟩ :=
          acquired.resume_published service.journal now _ policySetId version published
        unfold PolicyCache.acquire at free
        split at free
        · cases free
        · cases free
          exact ⟨snapshot, id, number, publishes.current, publishes.generation, publishes.policy⟩
  resume now wait policySetId version published :=
    service.cache.resume_published service.journal now wait policySetId version published

/-- In every run from an empty cache the three views of the policy are those of the snapshots that
its refreshes have published.  Each refresh that reports success adds its snapshot, and those that
publish nothing change none of the three. -/
theorem policy_views_agree (service : Service) (surroundings : Surroundings)
    (source : ScriptedSource) (options : CacheOptions) (reporting : Bool)
    (empty : service.cache = .new source options reporting)
    (untold : service.journal.status.policy = none) (happenings : List Happening) (world : World)
    (run : World.Run (.start service surroundings) happenings world) :
    (∃ history, World.Chronicle (.start service surroundings) happenings world history) ∧
      (∀ history, World.Chronicle (.start service surroundings) happenings world history →
        world.service.Coherent reporting (publishedIn history)) ∧
      world.service.SuccessesPublish ∧ world.service.FailuresKeepViews := by
  refine ⟨run.chronicle, ?_, world.service.successesPublish, world.service.failuresKeepViews⟩
  intro history chronicle
  have nothing : Views reporting [] (service.cache, service.journal) := by
    rw [empty]
    exact ⟨rfl, rfl, rfl, fun _ => untold⟩
  exact (chronicle.views nothing).coherent

/-! ## A run with two snapshots -/

namespace SampleRun

def first : PolicySnapshot := .new "alpha" "1" .epoch

def second : PolicySnapshot := .new "alpha" "2" .epoch

def source : ScriptedSource :=
  ⟨[.ok first, .error (.unavailable "down")], .ok second, some 3, 0⟩

def service : Service :=
  .new .default source (fun _ _ => .panicked) [] .empty .epoch

def beginning : World := .start service .default

end SampleRun

open SampleRun in
/-- A snapshot that is followed by a failure and another snapshot. -/
theorem second_snapshot_in_effect :
    ∃ happenings world, World.Run beginning happenings world ∧
      world.service.cache.generation = 2 ∧ world.service.cache.current = some second ∧
      ∃ history, World.Chronicle beginning happenings world history ∧
        (publishedIn history).getLast? = some second := by
  have loaded : World.Run beginning _ _ :=
    .step (.step (.step (.step .start (.begins (.refreshing none none) rfl))
      (.turns [] [] _ _ _ rfl rfl)) (.time 3 (by decide))) (.turns [] [] _ _ _ rfl rfl)
  have failed : World.Run beginning _ _ :=
    .step (.step (.step (.step loaded (.begins (.refreshing none none) rfl))
      (.turns [] [] _ _ _ rfl rfl)) (.time 6 (by decide))) (.turns [] [] _ _ _ rfl rfl)
  have reloaded : World.Run beginning _ _ :=
    .step (.step (.step (.step failed (.begins (.refreshing none none) rfl))
      (.turns [] [] _ _ _ rfl rfl)) (.time 9 (by decide))) (.turns [] [] _ _ _ rfl rfl)
  obtain ⟨⟨history, chronicle⟩, agrees, -⟩ :=
    policy_views_agree service _ source _ true rfl rfl _ _ reloaded
  have coherent := agrees history chronicle
  exact ⟨_, _, reloaded, rfl, rfl, history, chronicle, coherent.current.symm⟩

end DecisionPoint
