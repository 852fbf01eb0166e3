import DecisionPoint.Proofs.Schedule.Fetching

/-!
# One refresh at a time

Whoever waits for a fetch has the right to refresh, and there is one such right.  So the number of
activities that wait for a fetch is what the flag of the cache says, in every world that a run can
reach.  The right is given back however a refresh ends, and the next one calls the source again.
-/

set_option autoImplicit false

namespace DecisionPoint

/-! ## The flag -/

theorem PolicyCache.refreshing_of_acquire {cache acquired : PolicyCache}
    (free : cache.acquire = some acquired) :
    cache.refreshing = false ∧ acquired = { cache with refreshing := true } := by
  unfold acquire at free
  by_cases taken : cache.refreshing = true
  · rw [if_pos taken] at free
    cases free
  · rw [if_neg taken] at free
    exact ⟨Bool.eq_false_iff.mpr taken, (Option.some.inj free).symm⟩

theorem PolicyCache.concluded_refreshing (cache : PolicyCache) (journal : Journal)
    (fetched : Fetched) : (cache.concluded journal fetched).1.refreshing = false := by
  cases fetched <;> rfl

theorem Drives.balance {holds holds' : Bool} {before after : CacheState}
    {events : List RefreshEvent} (drives : Drives holds before events holds' after)
    (mine : holds = true → before.1.refreshing = true) :
    after.1.refreshing.toNat + holds.toNat = before.1.refreshing.toNat + holds'.toNat := by
  induction drives with
  | rests untouched => rw [untouched.refreshing]
  | refused taken => rfl
  | begins free =>
      obtain ⟨unset, acquired⟩ := PolicyCache.refreshing_of_acquire free
      simp [acquired, unset]
  | answered =>
      rw [PolicyCache.concluded_refreshing, mine rfl]
      rfl
  | timedOut limit =>
      rw [PolicyCache.concluded_refreshing, mine rfl]
      rfl
  | brokenOff =>
      rw [mine rfl]
      rfl
  | @followed a b c first second third events later _ _ ih ih' =>
      have half := ih mine
      have still : b = true → second.1.refreshing = true := by
        intro mine'
        subst mine'
        cases a with
        | false =>
            cases set : second.1.refreshing with
            | true => rfl
            | false => simp [set] at half
        | true =>
            rw [mine rfl] at half
            cases set : second.1.refreshing with
            | true => rfl
            | false => simp [set] at half
      have rest := ih' still
      omega

theorem World.Run.fetches_eq {beginning world : World} {happenings : List Happening}
    (run : World.Run beginning happenings world)
    (balanced : beginning.fetches = beginning.service.cache.refreshing.toNat) :
    world.fetches = world.service.cache.refreshing.toNat := by
  induction run with
  | start => exact balanced
  | @step _ world next _ _ step ih =>
      obtain ⟨events, holds, holds', moves⟩ := step.moves
      have flagged : holds = true → world.state.1.refreshing = true := by
        intro mine
        have waits := moves.mine mine
        rw [ih] at waits
        cases set : world.service.cache.refreshing with
        | true => exact set
        | false => simp [set] at waits
      have flag := moves.drives.balance flagged
      have count := moves.balance
      simp only [state] at flag
      omega

/-! ## Refreshes that are refused and refreshes that call the source -/

namespace PolicyCache

/-- A refresh that calls the source: it waits for the answer, or has taken it, or its time is up. -/
inductive CallsSource (cache : PolicyCache) (now : Nat) :
    PolicyCache × Journal × Progress RefreshOutcome FetchWait → Prop where
  | waits (journal : Journal) :
      CallsSource cache now
        ({ cache with refreshing := true }, journal, .waiting (cache.fetchFrom now))
  | answered (cache' : PolicyCache) (journal : Journal) (outcome : RefreshOutcome)
      (taken : cache'.source = cache.source.answer.1) :
      CallsSource cache now (cache', journal, .done outcome)
  | timedOut (cache' : PolicyCache) (journal : Journal)
      (late : hasCome now (cache.fetchFrom now).deadline = true) :
      CallsSource cache now
        (cache', journal,
          .done (.failed (FetchFault.timeout (cache.fetchFrom now).limit).message))

variable (cache : PolicyCache) (journal : Journal) (now : Nat)

theorem refresh_refused (taken : cache.refreshing = true) :
    cache.refresh journal now =
      (cache, journal, .done (.failed "refresh already in progress")) := by
  unfold refresh acquire
  rw [if_pos taken]
  rfl

theorem refresh_callsSource (free : cache.refreshing = false) :
    cache.CallsSource now (cache.refresh journal now) := by
  have acquired : cache.acquire = some { cache with refreshing := true } := by
    simp [acquire, free]
  simp only [refresh, acquired, resume]
  by_cases answers :
      hasCome now (fetchFrom { cache with refreshing := true } now).answersAt = true
  · simp only [if_pos answers]
    cases fetched : cache.source.answer.2 with
    | ok snapshot => exact .answered _ _ _ rfl
    | error fault => exact .answered _ _ _ rfl
  · simp only [if_neg answers]
    by_cases late :
        hasCome now (fetchFrom { cache with refreshing := true } now).deadline = true
    · simp only [if_pos late]
      exact .timedOut _ _ late
    · simp only [if_neg late]
      exact .waits journal

/-- A refresh that has come to its end has given the right back. -/
theorem resume_done_refreshing (wait : FetchWait) (outcome : RefreshOutcome)
    (done : (cache.resume journal now wait).2.2 = .done outcome) :
    (cache.resume journal now wait).1.refreshing = false := by
  unfold resume at done ⊢
  by_cases answers : hasCome now wait.answersAt = true
  · simp only [if_pos answers]
    exact concluded_refreshing _ journal _
  · simp only [if_neg answers] at done ⊢
    by_cases late : hasCome now wait.deadline = true
    · simp only [if_pos late]
      rfl
    · simp [if_neg late] at done

end PolicyCache

/-! ## Single flight -/

/-- There is at most one refresh at a time, and none is kept from the source but by another. -/
structure World.SingleFlight (world : World) : Prop where
  single : world.fetches ≤ 1
  flag : world.service.cache.refreshing = true ↔ world.fetches = 1
  refused : world.fetches = 1 → ∀ now,
    world.service.cache.refresh world.service.journal now =
      (world.service.cache, world.service.journal,
        .done (.failed "refresh already in progress"))
  reaches : world.fetches = 0 → ∀ now,
    world.service.cache.CallsSource now
      (world.service.cache.refresh world.service.journal now)
  ended : ∀ now wait outcome,
    (world.service.cache.resume world.service.journal now wait).2.2 = .done outcome →
      (world.service.cache.resume world.service.journal now wait).1.refreshing = false
  stopped : ∀ now ticker wait,
    (world.service.cache.runLoop world.service.journal now true
      (.fetching ticker wait)).1.refreshing = false
  dropped : ∀ activity ∈ world.tasks, activity.isFetching = true →
    (activity.dropFrom world.service).cache.refreshing = false

/-- In every run from an empty cache there is at most one refresh at a time: the flag is set exactly
while one waits for its fetch, others are refused meanwhile, and however it ends the next one
reaches the source. -/
theorem one_refresh_at_a_time (service : Service) (surroundings : Surroundings)
    (source : ScriptedSource) (options : CacheOptions) (reporting : Bool)
    (empty : service.cache = .new source options reporting) (happenings : List Happening)
    (world : World) (run : World.Run (.start service surroundings) happenings world) :
    world.SingleFlight := by
  have idle : (World.start service surroundings).fetches = service.cache.refreshing.toNat := by
    rw [empty]
    rfl
  have counted := run.fetches_eq idle
  have flag : world.service.cache.refreshing = true ↔ world.fetches = 1 := by
    rw [counted]
    cases world.service.cache.refreshing <;> simp
  refine ⟨?_, flag, ?_, ?_, ?_, ?_, ?_⟩
  · rw [counted]
    exact Bool.toNat_le _
  · intro waits now
    exact world.service.cache.refresh_refused world.service.journal now (flag.mpr waits)
  · intro none now
    have free : world.service.cache.refreshing = false := by
      rw [Bool.eq_false_iff]
      intro taken
      rw [flag.mp taken] at none
      cases none
    exact world.service.cache.refresh_callsSource world.service.journal now free
  · intro now wait outcome done
    exact world.service.cache.resume_done_refreshing world.service.journal now wait outcome done
  · intro now ticker wait
    rfl
  · intro activity _ fetching
    simp only [Activity.dropFrom, fetching, if_true]
    rfl

/-! ## A refused refresh and one that is broken off -/

namespace SampleFlight

/-- A source that takes three milliseconds. -/
def source : ScriptedSource :=
  { ScriptedSource.unavailable with delay := some 3 }

def service : Service :=
  .new .default source (fun _ _ => .panicked) [] .empty .epoch

def beginning : World := .start service .default

end SampleFlight

open SampleFlight in
/-- While one refresh waits another is refused; when its caller has gone away a third one waits. -/
theorem third_refresh_waits :
    ∃ happenings world, World.Run beginning happenings world ∧
      .turn (.refreshing none none) (.done (.refreshed (.failed "refresh already in progress"))) ∈
        happenings ∧
      world.fetches = 1 ∧ world.SingleFlight := by
  have waits : World.Run beginning _ _ :=
    .step (.step .start (.begins (.refreshing none none) rfl)) (.turns [] [] _ _ _ rfl rfl)
  have refused : World.Run beginning _ _ :=
    .step (.step waits (.begins (.refreshing none none) rfl)) (.turns [_] [] _ _ _ rfl rfl)
  have again : World.Run beginning _ _ :=
    .step (.step (.step refused (.drops [] [] _ rfl rfl)) (.begins (.refreshing none none) rfl))
      (.turns [] [] _ _ _ rfl rfl)
  exact ⟨_, _, again, by simp [PolicyCache.refused], rfl,
    one_refresh_at_a_time service _ source _ true rfl _ _ again⟩

end DecisionPoint
