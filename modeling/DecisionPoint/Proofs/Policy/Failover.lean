import DecisionPoint.Bootstrap
import DecisionPoint.Proofs.Policy.Attempts
import DecisionPoint.Schedule.Clock

/-!
# Falling back to another administration point

A client asks its points one after another, and each query has a limit of its own.  The cache has a
limit on the fetch as a whole, and a configuration sets both limits by one number.  So a refresh
takes the policy of the first point that supplies one exactly when all queries up to that one are
over within what is granted to a single query.  A point that hangs uses this time up.
-/

set_option autoImplicit false

namespace DecisionPoint

/-! ## Fetches -/

namespace AdministrationClient

section Fetches

variable (client : AdministrationClient) (loadedAt : Instant) (network : Nat → Exchange)

/-- The point at a place answers with a policy, and does so within the limit on its query. -/
def Supplies (place : Nat) (snapshot : PolicySnapshot) : Prop :=
  ∃ endpoint delay, client.endpoints[place]? = some endpoint ∧
    (Url.parse endpoint).isSome = true ∧ (network place).delay = some delay ∧
    delay < client.timeout.millis ∧
    client.policyOf endpoint loadedAt (network place).reply = .ok snapshot

/-- The point at a place is the first in order that supplies a policy. -/
structure FirstSupplies (place : Nat) (snapshot : PolicySnapshot) : Prop where
  supplies : client.Supplies loadedAt network place snapshot
  first : ∀ before < place, ∀ other, ¬ client.Supplies loadedAt network before other

/-- How long the queries of some points take, when the first of them is at a place. -/
def timeOf : List String → Nat → Nat
  | [], _ => 0
  | endpoint :: later, place =>
    (client.ask endpoint (network place)).2 + timeOf later (place + 1)

/-- How long the queries take up to the one at a place. -/
def timeThrough (place : Nat) : Nat :=
  client.timeOf network (client.endpoints.take (place + 1)) 0

theorem timeOf_append (earlier later : List String) (place : Nat) :
    client.timeOf network (earlier ++ later) place =
      client.timeOf network earlier place +
        client.timeOf network later (place + earlier.length) := by
  induction earlier generalizing place with
  | nil => rw [List.nil_append, timeOf, List.length_nil, Nat.add_zero, Nat.zero_add]
  | cons endpoint earlier ih =>
      rw [List.cons_append, timeOf, ih (place + 1), timeOf, List.length_cons, Nat.add_assoc,
        Nat.add_assoc, Nat.add_comm 1]

theorem answered_of_policyOf (endpoint : String) (reply : Reply) (snapshot : PolicySnapshot)
    (policy : client.policyOf endpoint loadedAt reply = .ok snapshot) :
    ∃ status body, reply = .answered status body := by
  cases reply with
  | unsendable => cases policy
  | unreachable => cases policy
  | answered status body => exact ⟨status, body, rfl⟩

theorem ask_eq_ok_iff (endpoint : String) (exchange : Exchange) (snapshot : PolicySnapshot) :
    client.policyOf endpoint loadedAt (client.ask endpoint exchange).1 = .ok snapshot ↔
      (Url.parse endpoint).isSome = true ∧ ∃ delay, exchange.delay = some delay ∧
        delay < client.timeout.millis ∧
        client.policyOf endpoint loadedAt exchange.reply = .ok snapshot := by
  constructor
  · intro policy
    obtain ⟨status, body, answered⟩ := client.answered_of_policyOf loadedAt endpoint _ _ policy
    unfold ask at answered policy
    by_cases address : (Url.parse endpoint).isNone = true
    · rw [if_pos address] at answered
      cases answered
    · rw [if_neg address, Exchange.within] at answered policy
      refine ⟨Option.isSome_iff_ne_none.mpr (mt Option.isNone_iff_eq_none.mpr address), ?_⟩
      cases delayed : exchange.delay with
      | none =>
          rw [delayed] at answered
          cases answered
      | some delay =>
          rw [delayed] at answered policy
          by_cases inTime : delay < client.timeout.millis
          · simp only [if_pos inTime] at policy
            exact ⟨delay, rfl, inTime, policy⟩
          · simp only [if_neg inTime] at answered
            cases answered
  · rintro ⟨address, delay, delayed, inTime, policy⟩
    have known : ¬ (Url.parse endpoint).isNone = true :=
      mt Option.isNone_iff_eq_none.mp (Option.isSome_iff_ne_none.mp address)
    rw [ask, if_neg known, Exchange.within, delayed]
    simp only [if_pos inTime]
    exact policy

theorem supplies_iff (place : Nat) (snapshot : PolicySnapshot) :
    client.Supplies loadedAt network place snapshot ↔
      ∃ endpoint, client.endpoints[place]? = some endpoint ∧
        client.policyOf endpoint loadedAt (client.ask endpoint (network place)).1 =
          .ok snapshot := by
  simp only [Supplies, ask_eq_ok_iff]
  constructor
  · rintro ⟨endpoint, delay, found, address, answers, inTime, policy⟩
    exact ⟨endpoint, found, address, delay, answers, inTime, policy⟩
  · rintro ⟨endpoint, found, address, delay, answers, inTime, policy⟩
    exact ⟨endpoint, delay, found, address, answers, inTime, policy⟩

/-- The points of a list that begins at a place all fail. -/
def AllFail (endpoints : List String) (place : Nat) : Prop :=
  ∀ index endpoint, endpoints[index]? = some endpoint → ∀ snapshot,
    client.policyOf endpoint loadedAt (client.ask endpoint (network (place + index))).1 ≠
      .ok snapshot

theorem AllFail.tail {client : AdministrationClient} {loadedAt : Instant}
    {network : Nat → Exchange} {endpoint : String} {rest : List String} {place : Nat}
    (fail : client.AllFail loadedAt network (endpoint :: rest) place) :
    client.AllFail loadedAt network rest (place + 1) := by
  intro index other found
  have shifted : place + (index + 1) = place + 1 + index := by omega
  exact shifted ▸ fail (index + 1) other found

theorem fetchFrom_append (issue : Nat → String × Instant) (earlier rest : List String)
    (queries : List PolicyQuery) (failures : List String) (elapsed : Nat)
    (fail : client.AllFail loadedAt network earlier queries.length) :
    ∃ queries' failures', queries'.length = queries.length + earlier.length ∧
      client.fetchFrom issue loadedAt network (earlier ++ rest) queries failures elapsed =
        client.fetchFrom issue loadedAt network rest queries' failures'
          (elapsed + client.timeOf network earlier queries.length) := by
  induction earlier generalizing queries failures elapsed with
  | nil => exact ⟨queries, failures, rfl, rfl⟩
  | cons endpoint earlier ih =>
      have failed := fail 0 endpoint rfl
      cases answer : client.policyOf endpoint loadedAt
          (client.ask endpoint (network queries.length)).1 with
      | ok snapshot =>
          rw [Nat.add_zero] at failed
          exact absurd answer (failed snapshot)
      | error fault =>
          have more (query : PolicyQuery) : (queries ++ [query]).length = queries.length + 1 :=
            List.length_append
          obtain ⟨queries', failures', length, passed⟩ := ih
            (queries ++ [client.query (issue queries.length).1 (issue queries.length).2])
            (failures ++ [fault.message])
            (elapsed + (client.ask endpoint (network queries.length)).2)
            ((more _).symm ▸ fail.tail)
          rw [more] at length passed
          refine ⟨queries', failures', ?_, ?_⟩
          · rw [length, List.length_cons]
            omega
          · simp only [List.cons_append, fetchFrom, answer]
            rw [passed, timeOf, Nat.add_assoc]

theorem FirstSupplies.allFail {client : AdministrationClient} {loadedAt : Instant}
    {network : Nat → Exchange} {place : Nat} {snapshot : PolicySnapshot}
    (first : client.FirstSupplies loadedAt network place snapshot) :
    client.AllFail loadedAt network (client.endpoints.take place) 0 := by
  intro index endpoint found other answer
  rw [List.getElem?_take, Option.ite_none_right_eq_some] at found
  obtain ⟨before, found⟩ := found
  rw [Nat.zero_add] at answer
  exact first.first index before other
    ((client.supplies_iff loadedAt network index other).mpr ⟨endpoint, found, answer⟩)

/-- A fetch takes the policy of the first point that supplies one, and the time of all queries up to
that one. -/
theorem fetch_of_firstSupplies (place : Nat) (snapshot : PolicySnapshot)
    (first : client.FirstSupplies loadedAt network place snapshot) :
    (client.fetch loadedAt network).outcome = .ok snapshot ∧
      (client.fetch loadedAt network).elapsed = client.timeThrough network place := by
  obtain ⟨endpoint, found, answer⟩ :=
    (client.supplies_iff loadedAt network place snapshot).mp first.supplies
  obtain ⟨inside, here⟩ := List.getElem?_eq_some_iff.mp found
  -- The points before this one fail, and those after it are not asked.
  have split : client.endpoints =
      client.endpoints.take place ++ endpoint :: client.endpoints.drop (place + 1) := by
    rw [← here, ← List.drop_eq_getElem_cons inside, List.take_append_drop]
  obtain ⟨queries, failures, asked, passed⟩ := client.fetchFrom_append loadedAt network
    (fun place => (freshIdentifier 0 place, loadedAt)) (client.endpoints.take place)
    (endpoint :: client.endpoints.drop (place + 1)) [] [] 0 first.allFail
  have length : (client.endpoints.take place).length = place := by
    rw [List.length_take]
    omega
  rw [List.length_nil, length, Nat.zero_add] at asked
  rw [← split, Nat.zero_add] at passed
  have queried : client.timeThrough network place =
      client.timeOf network (client.endpoints.take place) 0 +
        (client.ask endpoint (network place)).2 := by
    rw [timeThrough, List.take_add_one, found]
    rw [Option.toList_some, timeOf_append, length, Nat.zero_add, timeOf, timeOf, Nat.add_zero]
  rw [fetch, fetchWith, passed, queried]
  simp [fetchFrom, asked, answer]

theorem fetch_of_none (none : ∀ place snapshot, ¬ client.Supplies loadedAt network place snapshot) :
    ∃ failures, (client.fetch loadedAt network).outcome = .error failures := by
  have fail : client.AllFail loadedAt network client.endpoints 0 := by
    intro index endpoint found snapshot answer
    rw [Nat.zero_add] at answer
    exact none index snapshot
      ((client.supplies_iff loadedAt network index snapshot).mpr ⟨endpoint, found, answer⟩)
  obtain ⟨queries, failures, -, passed⟩ := client.fetchFrom_append loadedAt network
    (fun place => (freshIdentifier 0 place, loadedAt)) client.endpoints [] [] [] 0 fail
  rw [List.append_nil] at passed
  exact ⟨failures, by rw [fetch, fetchWith, passed]; rfl⟩

end Fetches

end AdministrationClient

/-! ## A refresh on the clock -/

namespace Schedule

def quiet (now : Nat) (service : Service) (surroundings : Surroundings) : Schedule :=
  ⟨now, service, surroundings, [], [], [], 0⟩

section Quiet

variable (now : Nat) (service after : Service) (surroundings : Surroundings) (fuel : Nat)

theorem absorb_quiet (unspawned : after.spawned = []) :
    (quiet now service surroundings).absorb after = quiet now after surroundings := by
  have same : { after with spawned := [] } = after := by
    rw [← unspawned]
  simp only [absorb, unspawned, List.foldl_nil, same]
  rfl

theorem settle_quiet :
    (quiet now service surroundings).settle fuel = quiet now service surroundings := by
  cases fuel <;> rfl

theorem attend_quiet (caller : Activity) (wake : Nat) (answer : Answer)
    (waits : caller.canGoOn service now = false) (wakes : caller.wake = some wake)
    (forward : now ≤ wake) (goesOn : caller.canGoOn service wake = true)
    (ran : caller.run service surroundings wake = (after, .done answer))
    (unspawned : after.spawned = []) :
    (quiet now service surroundings).attend caller (fuel + 1) =
      (quiet wake after surroundings, some answer) := by
  have moved : (quiet now service surroundings).awaitAny caller =
      some (quiet wake service surroundings) := by
    have later : max now wake = wake := Nat.max_eq_right forward
    simp only [awaitAny, quiet, waits, nextWake, wakes, List.foldl_nil, Option.map_some, moveTo,
      later]
    rfl
  simp only [attend, quiet] at moved ⊢
  simp only [moved, goesOn, if_true, ran]
  exact congrArg (·, some answer) (congrArg promote (absorb_quiet wake service after _ unspawned))

end Quiet

section Refreshes

variable (service : Service) (surroundings : Surroundings) (fuel : Nat)

theorem perform_refresh (unspawned : service.spawned = []) (acquired later : PolicyCache)
    (free : service.cache.acquire = some acquired) (record : Journal) (outcome : RefreshOutcome)
    (time : Nat) (wakes : (acquired.fetchFrom 0).wake = some time)
    (ends : acquired.resume service.journal time (acquired.fetchFrom 0) =
      (later, record, .done outcome)) :
    (start service surroundings).perform (.refreshing none none) (fuel + 1) =
      (quiet time (service.withCache later record) surroundings, some (.refreshed outcome)) := by
  have refreshed : service.cache.refresh service.journal 0 =
      acquired.resume service.journal 0 (acquired.fetchFrom 0) := by
    simp only [PolicyCache.refresh, free]
  have alone (cache : PolicyCache) (journal : Journal) :
      (quiet 0 service surroundings).absorb (service.withCache cache journal) =
        quiet 0 (service.withCache cache journal) surroundings :=
    absorb_quiet 0 service (service.withCache cache journal) surroundings unspawned
  -- A fetch that is due at once ends in the first turn; otherwise the clock has to move on first.
  rcases Nat.eq_zero_or_pos time with rfl | due
  · have ran : Activity.run service surroundings 0 (.refreshing none none) =
        (service.withCache later record, .done (.refreshed outcome)) := by
      simp only [Activity.run, refreshed, ends, Activity.afterRefresh]
    simp only [perform, start, ran]
    rw [← quiet, alone]
    exact congrArg (·, _) (settle_quiet 0 _ surroundings (fuel + 1))
  · have asleep : hasCome 0 (acquired.fetchFrom 0).wake = false := by
      rw [wakes]
      exact decide_eq_false (Nat.not_le_of_lt due)
    have early := acquired.resume_early service.journal asleep
    have waits : Activity.run service surroundings 0 (.refreshing none none) =
        (service.withCache acquired service.journal,
          .waiting (.refreshing none (some (acquired.fetchFrom 0)))) := by
      simp only [Activity.run, refreshed, early, Activity.afterRefresh]
      rfl
    have attended := attend_quiet 0 (service.withCache acquired service.journal)
      (service.withCache later record) surroundings fuel
      (.refreshing none (some (acquired.fetchFrom 0))) time (.refreshed outcome)
      (by simp [Activity.canGoOn, hasCome, wakes, Nat.ne_of_gt due])
      (by simp [Activity.wake, earlier, wakes]) (Nat.zero_le _)
      (by simp [Activity.canGoOn, hasCome, wakes])
      (by simp only [Activity.run, Service.withCache, ends, Activity.afterRefresh]) unspawned
    have promoted : (quiet 0 (service.withCache acquired service.journal) surroundings).promote =
        quiet 0 (service.withCache acquired service.journal) surroundings := rfl
    simp only [perform, start, waits]
    rw [← quiet, alone, promoted, attended]
    exact congrArg (·, _) (settle_quiet time _ surroundings (fuel + 1))

/-- A refresh has put a snapshot into effect. -/
def HasPublished (refreshed : Schedule × Option Answer) (snapshot : PolicySnapshot) : Prop :=
  refreshed.2 = some (.refreshed (.published snapshot.policySetId snapshot.version)) ∧
    refreshed.1.service.cache.current = some snapshot

/-- A refresh has failed, and there is no policy. -/
def HasFailed (refreshed : Schedule × Option Answer) (reason : String) : Prop :=
  refreshed.2 = some (.refreshed (.failed reason)) ∧ refreshed.1.service.cache.current = none

end Refreshes

/-! ## The first refresh of a cache -/

section FirstRefresh

variable (service : Service) (surroundings : Surroundings) (fuel : Nat)
  (unspawned : service.spawned = []) (source : ScriptedSource) (options : CacheOptions)
  (empty : service.cache = .new source options true) (delay : Nat)
  (delayed : source.delay = some delay)

def loading : PolicyCache :=
  { PolicyCache.new source options true with refreshing := true }

include unspawned empty delayed

theorem perform_refresh_answered
    (inTime : ∀ limit ∈ options.fetchTimeout, delay ≤ limit.millis) :
    let refreshed := (start service surroundings).perform (.refreshing none none) (fuel + 1)
    (∀ snapshot, source.answer.2 = .ok snapshot →
      HasPublished refreshed snapshot ∧ refreshed.1.now = delay) ∧
    ∀ fault, source.answer.2 = .error fault → HasFailed refreshed fault.message := by
  have wakes : ((loading source options).fetchFrom 0).wake = some delay := by
    cases limited : options.fetchTimeout with
    | none =>
        simp [loading, PolicyCache.fetchFrom, PolicyCache.new, FetchWait.wake, earlier, delayed,
          limited]
    | some limit =>
        have sooner : delay ≤ limit.millis := inTime limit limited
        simp [loading, PolicyCache.fetchFrom, PolicyCache.new, FetchWait.wake, earlier, delayed,
          limited, sooner]
  have come : hasCome delay ((loading source options).fetchFrom 0).answersAt = true := by
    simp [loading, PolicyCache.fetchFrom, PolicyCache.new, delayed, hasCome]
  have free : service.cache.acquire = some (loading source options) := by
    rw [empty]
    rfl
  have performed := perform_refresh service surroundings fuel unspawned _ _ free _ _ delay wakes
    (by rw [PolicyCache.resume, if_pos come])
  have fetched : (loading source options).source.answer = source.answer := rfl
  intro refreshed
  constructor
  · intro snapshot answer
    rw [fetched, answer] at performed
    simp only [refreshed, performed]
    exact ⟨⟨rfl, rfl⟩, rfl⟩
  · intro fault answer
    rw [fetched, answer] at performed
    simp only [refreshed, performed]
    exact ⟨rfl, rfl⟩

theorem perform_refresh_timedOut (limit : Span) (limited : options.fetchTimeout = some limit)
    (late : limit.millis < delay) :
    HasFailed ((start service surroundings).perform (.refreshing none none) (fuel + 1))
      (FetchFault.timeout limit).message := by
  have wakes : ((loading source options).fetchFrom 0).wake = some limit.millis := by
    simp [loading, PolicyCache.fetchFrom, PolicyCache.new, FetchWait.wake, earlier, delayed,
      limited, Nat.le_of_lt late]
  have unanswered :
      ¬ hasCome limit.millis ((loading source options).fetchFrom 0).answersAt = true := by
    simp [loading, PolicyCache.fetchFrom, PolicyCache.new, delayed, hasCome, late]
  have expired : hasCome limit.millis ((loading source options).fetchFrom 0).deadline = true := by
    simp [loading, PolicyCache.fetchFrom, PolicyCache.new, limited, hasCome]
  have free : service.cache.acquire = some (loading source options) := by
    rw [empty]
    rfl
  have performed := perform_refresh service surroundings fuel unspawned _ _ free _ _ limit.millis
    wakes (by rw [PolicyCache.resume, if_neg unanswered, if_pos expired])
  have named : ((loading source options).fetchFrom 0).limit = limit := by
    simp [loading, PolicyCache.fetchFrom, PolicyCache.new, limited]
  rw [performed, named]
  exact ⟨rfl, rfl⟩

end FirstRefresh

end Schedule

/-! ## The points of a configuration -/

theorem Span.millis_ofMillis (millis : Nat) : (ofMillis millis).millis = millis := by
  simp only [Span.millis, ofMillis]
  omega

namespace Configuration

variable (configuration : Configuration)

/-- A valid configuration with a policy set and points has a client and makes up a service. -/
theorem assembles (valid : configuration.validate = .ok ())
    (identified : configuration.policy.policySetId.isEmpty = false)
    (pointed : configuration.policy.administrationPoints ≠ []) (engine : Engine)
    (points : List Point) (registry : Option HandlerRegistry) (network : Nat → Exchange)
    (startedAt : Instant) :
    ∃ client assembly, configuration.administrationClient = .ok client ∧
      client.endpoints = configuration.policy.administrationPoints ∧
      client.timeout = (limit? configuration.policy.fetchTimeoutMillis).getD defaultQueryLimit ∧
      configuration.assemble ⟨none, some engine, points, registry, network⟩ startedAt =
        .ok assembly ∧
      assembly.service.spawned = [] ∧
      assembly.service.cache =
        .new (client.source startedAt network) configuration.cacheOptions true := by
  have asked : configuration.policy.administrationPoints.isEmpty = false :=
    List.isEmpty_eq_false_iff.mpr pointed
  have known : configuration.administrationClient =
      .ok ⟨configuration.policy.administrationPoints, configuration.policy.policySetId,
        configuration.service.entityId,
        (limit? configuration.policy.fetchTimeoutMillis).getD defaultQueryLimit, pointed⟩ := by
    simp [administrationClient, identified, asked, AdministrationClient.new, pointed]
  refine ⟨_, ?_, known, rfl, rfl, ?_, ?_, ?_⟩
  rotate_left
  · simp only [assemble, valid, administrationSource, known]
    rfl
  · rfl
  · rfl

/-- The time that a configuration grants a fetch as a whole is enough. -/
def Grants (millis : Nat) : Prop :=
  configuration.policy.fetchTimeoutMillis = 0 ∨
    millis ≤ configuration.policy.fetchTimeoutMillis.toNat

theorem Grants.inTime {configuration : Configuration} {millis : Nat}
    (granted : configuration.Grants millis) :
    ∀ limit ∈ configuration.cacheOptions.fetchTimeout, millis ≤ limit.millis := by
  intro limit limited
  simp only [cacheOptions, limit?, Option.mem_def, Option.ite_none_left_eq_some] at limited
  obtain ⟨limits, same⟩ := limited
  rw [← Option.some.inj same, Span.millis_ofMillis]
  exact granted.resolve_left limits

theorem limited_of_not_grants {configuration : Configuration} {millis : Nat}
    (short : ¬ configuration.Grants millis) :
    configuration.cacheOptions.fetchTimeout =
        some (.ofMillis configuration.policy.fetchTimeoutMillis.toNat) ∧
      (Span.ofMillis configuration.policy.fetchTimeoutMillis.toNat).millis < millis := by
  obtain ⟨limits, short⟩ := not_or.mp short
  rw [Span.millis_ofMillis]
  exact ⟨if_neg limits, Nat.not_le.mp short⟩

end Configuration

open Schedule in
/-- A configuration grants a single query and the fetch as a whole the same time.  So the first
refresh of its service publishes the policy of the first point that supplies one if all queries up
to that one are over within this time.  Otherwise it fails, and so it does if no point supplies a
policy. -/
theorem fallback_within_one_limit (configuration : Configuration)
    (valid : configuration.validate = .ok ())
    (identified : configuration.policy.policySetId.isEmpty = false)
    (pointed : configuration.policy.administrationPoints ≠ []) (engine : Engine)
    (points : List Point) (registry : Option HandlerRegistry) (network : Nat → Exchange)
    (startedAt : Instant) (surroundings : Surroundings) (fuel : Nat) :
    ∃ client assembly, configuration.administrationClient = .ok client ∧
      client.endpoints = configuration.policy.administrationPoints ∧
      client.timeout = (Configuration.limit? configuration.policy.fetchTimeoutMillis).getD
        Configuration.defaultQueryLimit ∧
      configuration.assemble ⟨none, some engine, points, registry, network⟩ startedAt =
        .ok assembly ∧
      let refreshed :=
        (start assembly.service surroundings).perform (.refreshing none none) (fuel + 1)
      (∀ place snapshot, client.FirstSupplies startedAt network place snapshot →
        (configuration.Grants (client.timeThrough network place) →
          HasPublished refreshed snapshot ∧ refreshed.1.now = client.timeThrough network place) ∧
        (¬ configuration.Grants (client.timeThrough network place) →
          HasFailed refreshed
            (FetchFault.timeout
              (.ofMillis configuration.policy.fetchTimeoutMillis.toNat)).message)) ∧
      ((∀ place snapshot, ¬ client.Supplies startedAt network place snapshot) →
        ∃ reason, HasFailed refreshed reason) := by
  obtain ⟨client, assembly, made, endpoints, limit, assembled, unspawned, empty⟩ :=
    configuration.assembles valid identified pointed engine points registry network startedAt
  have delayed : (client.source startedAt network).delay =
      some (client.fetch startedAt network).elapsed := rfl
  have answer : (client.source startedAt network).answer.2 =
      (client.fetch startedAt network).result := rfl
  have answered := perform_refresh_answered assembly.service surroundings fuel unspawned _ _ empty _
    delayed
  have timedOut := perform_refresh_timedOut assembly.service surroundings fuel unspawned _ _ empty _
    delayed
  refine ⟨client, assembly, made, endpoints, limit, assembled, ?_, ?_⟩
  · intro place snapshot first
    obtain ⟨outcome, elapsed⟩ :=
      client.fetch_of_firstSupplies startedAt network place snapshot first
    rw [elapsed] at answered timedOut
    constructor
    · intro granted
      refine (answered granted.inTime).1 snapshot ?_
      rw [answer, AdministrationClient.Fetch.result, outcome]
      rfl
    · intro short
      obtain ⟨limited, late⟩ := Configuration.limited_of_not_grants short
      exact timedOut _ limited late
  · intro none
    obtain ⟨failures, outcome⟩ := client.fetch_of_none startedAt network none
    by_cases granted : configuration.Grants (client.fetch startedAt network).elapsed
    · refine ⟨_, (answered granted.inTime).2 (.allEndpointsFailed failures) ?_⟩
      rw [answer, AdministrationClient.Fetch.result, outcome]
      rfl
    · obtain ⟨limited, late⟩ := Configuration.limited_of_not_grants granted
      exact ⟨_, timedOut _ limited late⟩

/-! ## Two points, the first of which hangs -/

namespace SampleFailover

/-- Two points and a limit of five seconds. -/
def configuration : Configuration :=
  { Configuration.default with
    policy :=
      { PolicySettings.default with
        policySetId := "alpha"
        administrationPoints := ["http://first/", "http://second/"]
        fetchTimeoutMillis := 5000 } }

def body : String :=
  "\x7b\"policy_sets\":[\x7b\"policy_set_id\":\"alpha\",\"version\":\"2\"\x7d]\x7d"

/-- The first point answers after some time or hangs, the second has a policy after ten
milliseconds. -/
def network (first : Option Nat) : Nat → Exchange
  | 0 => ⟨first, .unreachable⟩
  | _ => ⟨some 10, .answered 200 body⟩

def client : AdministrationClient :=
  ⟨configuration.policy.administrationPoints, "alpha", "arbiter", .ofMillis 5000, by decide⟩

theorem valid : configuration.validate = .ok () := by
  have accepted : configuration.validate.toBool = true := by decide +kernel
  cases validated : configuration.validate with
  | ok _ => rfl
  | error fault =>
      rw [validated] at accepted
      cases accepted

theorem second_firstSupplies (first : Option Nat) :
    ∃ snapshot, client.FirstSupplies .epoch (network first) 1 snapshot := by
  have policy : (client.policyOf "http://second/" .epoch (.answered 200 body)).toOption.isSome =
      true := by decide +kernel
  have address : (Url.parse "http://second/").isSome = true := by decide +kernel
  cases supplied : client.policyOf "http://second/" .epoch (.answered 200 body) with
  | error fault =>
      rw [supplied] at policy
      cases policy
  | ok snapshot =>
      refine ⟨snapshot, ⟨"http://second/", 10, rfl, address, rfl, by decide, supplied⟩, ?_⟩
      intro before earlier other supplies
      obtain rfl : before = 0 := by omega
      obtain ⟨endpoint, delay, -, -, -, -, unreachable⟩ := supplies
      cases unreachable

end SampleFailover

open SampleFailover Schedule in
/-- The second point is asked in time when the first refuses the connection at once. -/
theorem second_point_after_refusal :
    ∃ assembly snapshot,
      configuration.assemble ⟨none, some fun _ _ => .panicked, [], none, network (some 0)⟩ .epoch =
        .ok assembly ∧
      HasPublished ((start assembly.service .default).perform (.refreshing none none) 1)
        snapshot := by
  obtain ⟨made, assembly, known, -, -, assembled, falls, -⟩ :=
    fallback_within_one_limit configuration valid rfl (by decide)
      (fun _ _ => .panicked) [] none (network (some 0)) .epoch .default 0
  obtain rfl : client = made := Except.ok.inj known
  obtain ⟨snapshot, first⟩ := second_firstSupplies (some 0)
  exact ⟨assembly, snapshot, assembled, ((falls 1 snapshot first).1 (.inr (by decide +kernel))).1⟩

open SampleFailover Schedule in
/-- A first point that hangs keeps the policy of the second from being used. -/
theorem hanging_point_spoils_refresh :
    configuration.validate = .ok () ∧ configuration.administrationClient = .ok client ∧
      (network none 0).delay = none ∧
      (∃ snapshot, client.FirstSupplies .epoch (network none) 1 snapshot) ∧
      ∃ assembly,
        configuration.assemble ⟨none, some fun _ _ => .panicked, [], none, network none⟩ .epoch =
          .ok assembly ∧
        HasFailed ((start assembly.service .default).perform (.refreshing none none) 1)
          "policy fetch timed out after 5s" := by
  refine ⟨valid, rfl, rfl, second_firstSupplies none, ?_⟩
  obtain ⟨made, assembly, known, -, -, assembled, unspawned, empty⟩ :=
    configuration.assembles valid rfl (by decide) (fun _ _ => .panicked) [] none (network none)
      .epoch
  obtain rfl : client = made := Except.ok.inj known
  obtain ⟨snapshot, first⟩ := second_firstSupplies none
  have elapsed := (client.fetch_of_firstSupplies .epoch (network none) 1 snapshot first).2
  refine ⟨assembly, assembled, ?_⟩
  exact perform_refresh_timedOut assembly.service .default 0 unspawned _ _ empty
    (client.fetch .epoch (network none)).elapsed rfl (.ofMillis 5000) rfl
    (by rw [elapsed]; decide +kernel)

end DecisionPoint
