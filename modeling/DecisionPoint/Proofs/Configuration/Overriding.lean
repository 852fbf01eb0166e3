import DecisionPoint.Configuration.Loader
import DecisionPoint.Proofs.Configuration.Values

/-!
# Overriding does not depend on the order of the variables

Each field has a variable of its own, and that variable sets it alone.  So the variables of an
environment, of which no two have one name, come to the same in whatever order they are gone
through: a field holds what the text of its variable gives, and otherwise what it held before.  When
a text gives nothing, no order leads to a configuration.
-/

set_option autoImplicit false

namespace DecisionPoint

namespace Configuration

/-! ## Fields and their setters -/

/-- The names of the sections and the field of a key, as variables spell them. -/
def Key.path : Key → List String
  | serviceName => ["SERVICE", "SERVICE_NAME"]
  | entityId => ["SERVICE", "ENTITY_ID"]
  | httpAddress => ["SERVICE", "HTTP_ADDR"]
  | adminAddress => ["SERVICE", "ADMIN_ADDR"]
  | shutdownTimeout => ["SERVICE", "SHUTDOWN_TIMEOUT_SECS"]
  | requestTimeout => ["SERVICE", "REQUEST_TIMEOUT_MS"]
  | pointTimeout => ["SERVICE", "PIP_TIMEOUT_MS"]
  | policySetId => ["POLICY", "POLICY_SET_ID"]
  | administrationPoints => ["POLICY", "PAPS"]
  | retentionInterval => ["POLICY", "RETENTION_INTERVAL_MINS"]
  | fetchTimeout => ["POLICY", "FETCH_TIMEOUT_MS"]
  | startupRetries => ["POLICY", "STARTUP_RETRIES"]
  | startupBackoff => ["POLICY", "STARTUP_BACKOFF_MS"]
  | maxRequests => ["ADMISSION", "MAX_REQUESTS"]
  | maxQueueSize => ["ADMISSION", "MAX_REQUEST_QUEUE_SIZE"]
  | unboundedQueue => ["ADMISSION", "UNBOUNDED_QUEUE"]
  | loggingEnabled => ["TELEMETRY", "LOGGING", "ENABLED"]
  | level => ["TELEMETRY", "LOGGING", "LEVEL"]
  | format => ["TELEMETRY", "LOGGING", "FORMAT"]
  | includeLocation => ["TELEMETRY", "LOGGING", "INCLUDE_LOCATION"]
  | metricsEnabled => ["TELEMETRY", "METRICS", "ENABLED"]
  | metricsAddress => ["TELEMETRY", "METRICS", "ADDR"]

/-- The name of the variable of a field, under a first part of names. -/
def Key.nameUnder (first : String) (key : Key) : String :=
  first ++ "__" ++ "__".intercalate key.path

example : Key.policySetId.nameUnder "ARBITER" = "ARBITER__POLICY__POLICY_SET_ID" := by decide

/-- A setter that stands under the name of a field and puts values into that field. -/
structure Sets (entry : List String × Setter) (key : Key) : Prop where
  path : entry.1 = key.path
  puts : entry.2.Puts key.Takes fun configuration held => configuration.put key held

def keys : List Key :=
  [.serviceName, .entityId, .httpAddress, .adminAddress, .shutdownTimeout, .requestTimeout,
    .pointTimeout, .policySetId, .administrationPoints, .retentionInterval, .fetchTimeout,
    .startupRetries, .startupBackoff, .maxRequests, .maxQueueSize, .unboundedQueue,
    .loggingEnabled, .level, .format, .includeLocation, .metricsEnabled, .metricsAddress]

theorem mem_keys (key : Key) : key ∈ keys := by
  cases key <;> decide

theorem setters_set : List.Forall₂ Sets setters keys := by
  have text {setter : Setter} {set : Configuration → String → Configuration}
      (same : setter = .text set) : setter.Puts (fun given held => held = given) set :=
    Setter.text_puts id (fun _ _ => Iff.rfl) same
  have address (given : String) (held : Option String) :
      held = (if given = "" then none else some given) ↔
        held = if given.isEmpty then none else some given := by
    simp only [String.isEmpty_iff]
  exact .cons ⟨rfl, text rfl⟩ <| .cons ⟨rfl, text rfl⟩ <| .cons ⟨rfl, text rfl⟩ <|
    .cons ⟨rfl, text rfl⟩ <| .cons ⟨rfl, Setter.word_puts rfl⟩ <|
    .cons ⟨rfl, Setter.word_puts rfl⟩ <| .cons ⟨rfl, Setter.word_puts rfl⟩ <|
    .cons ⟨rfl, text rfl⟩ <| .cons ⟨rfl, Setter.list_puts rfl⟩ <|
    .cons ⟨rfl, Setter.word_puts rfl⟩ <| .cons ⟨rfl, Setter.word_puts rfl⟩ <|
    .cons ⟨rfl, Setter.shortWord_puts rfl⟩ <| .cons ⟨rfl, Setter.word_puts rfl⟩ <|
    .cons ⟨rfl, Setter.word_puts rfl⟩ <| .cons ⟨rfl, Setter.word_puts rfl⟩ <|
    .cons ⟨rfl, Setter.flag_puts rfl⟩ <| .cons ⟨rfl, Setter.flag_puts rfl⟩ <|
    .cons ⟨rfl, text rfl⟩ <| .cons ⟨rfl, Setter.format_puts rfl⟩ <|
    .cons ⟨rfl, Setter.flag_puts rfl⟩ <| .cons ⟨rfl, Setter.flag_puts rfl⟩ <|
    .cons ⟨rfl, Setter.text_puts _ address rfl⟩ .nil

theorem distinct_setters : (setters.map Prod.fst).Nodup := by
  decide

/-! ## Names -/

theorem splitPairs_ne_nil (cs : List Char) : splitPairs cs ≠ [] := by
  fun_cases splitPairs cs <;> exact List.cons_ne_nil _ _

theorem intercalate_splitPairs (cs : List Char) :
    ['_', '_'].intercalate (splitPairs cs) = cs := by
  fun_induction splitPairs cs with
  | case1 rest ih =>
      rw [List.intercalate_cons_of_ne_nil (splitPairs_ne_nil rest), ih]
      rfl
  | case2 c rest _ nothing ih => exact absurd nothing (splitPairs_ne_nil rest)
  | case3 c rest _ part parts split ih =>
      rw [List.intercalate_cons_cons_left, ← split, ih]
  | case4 => rfl

theorem splitPairs_path (key : Key) :
    splitPairs (['_', '_'].intercalate (key.path.map String.toList)) =
      key.path.map String.toList := by
  cases key <;> rfl

theorem toList_nameUnder (first : String) (key : Key) :
    (key.nameUnder first).toList =
      first.toList ++ ['_', '_'] ++ ['_', '_'].intercalate (key.path.map String.toList) := by
  rw [Key.nameUnder, String.toList_append, String.toList_append, String.toList_intercalate]
  rfl

theorem afterStart_eq_some_iff {start cs rest : List Char} :
    afterStart start cs = some rest ↔ cs = start ++ rest := by
  unfold afterStart
  split
  · next begins =>
      obtain ⟨others, rfl⟩ := List.isPrefixOf_iff_prefix.mp begins
      simp
  · next differs =>
      constructor
      · nofun
      · rintro rfl
        exact absurd (List.isPrefixOf_iff_prefix.mpr (List.prefix_append start rest)) differs

theorem setterOf_eq_some_iff {first name : String} {setter : Setter} :
    setterOf first name = some setter ↔
      ∃ rest, name.toList = first.toList ++ ['_', '_'] ++ rest ∧
        setters.lookup ((splitPairs rest).map String.ofList) = some setter := by
  unfold setterOf
  cases split : afterStart (first.toList ++ ['_', '_']) name.toList with
  | none =>
      constructor
      · nofun
      · rintro ⟨rest, same, -⟩
        rw [afterStart_eq_some_iff.mpr same] at split
        cases split
  | some rest =>
      rw [afterStart_eq_some_iff] at split
      constructor
      · intro found
        exact ⟨rest, split, found⟩
      · rintro ⟨rest', same, found⟩
        cases List.append_cancel_left (split.symm.trans same)
        exact found

theorem setterOf_nameUnder (first : String) (key : Key) :
    ∃ setter, setterOf first (key.nameUnder first) = some setter ∧
      setter.Puts key.Takes fun configuration held => configuration.put key held := by
  obtain ⟨⟨path, setter⟩, mem, named, puts⟩ := exists_related setters_set (mem_keys key)
  refine ⟨setter, setterOf_eq_some_iff.mpr ⟨_, toList_nameUnder first key, ?_⟩, puts⟩
  rw [splitPairs_path, List.map_map, lookup_eq_some_iff_mem distinct_setters]
  have same : key.path.map (String.ofList ∘ String.toList) = path := by
    simp [← named, Function.comp_def]
  rw [same]
  exact mem

theorem exists_nameUnder {first name : String} {setter : Setter}
    (found : setterOf first name = some setter) : ∃ key : Key, name = key.nameUnder first := by
  obtain ⟨rest, split, found⟩ := setterOf_eq_some_iff.mp found
  have mem := (lookup_eq_some_iff_mem distinct_setters _ _).mp found
  obtain ⟨key, -, named, -⟩ := exists_related setters_set.flip mem
  refine ⟨key, String.toList_inj.mp ?_⟩
  have parts : key.path.map String.toList = splitPairs rest := by
    rw [← named]
    simp [Function.comp_def]
  rw [split, toList_nameUnder, parts, intercalate_splitPairs]

theorem nameUnder_inj {first : String} {key other : Key}
    (same : key.nameUnder first = other.nameUnder first) : key = other := by
  have distinct : (keys.map Key.path).Nodup := distinct_setters
  have chars := congrArg String.toList same
  rw [toList_nameUnder, toList_nameUnder] at chars
  have parts := congrArg splitPairs (List.append_cancel_left chars)
  rw [splitPairs_path, splitPairs_path] at parts
  have paths : key.path = other.path :=
    List.map_injective_iff.mpr (fun _ _ => String.toList_inj.mp) parts
  exact List.inj_on_of_nodup_map distinct (mem_keys key) (mem_keys other) paths

/-! ## One variable -/

variable {first : String} {configuration configuration' : Configuration} {key : Key}
  {text : String} {items : List Variable}

/-- A text gives at most one value to a field. -/
theorem Key.Takes.unique {held held' : key.Value} (takes : key.Takes text held)
    (takes' : key.Takes text held') : held = held' := by
  obtain ⟨setter, -, puts⟩ := setterOf_nameUnder "" key
  have put := (puts text default _).mpr ⟨held, takes, rfl⟩
  have put' := (puts text default _).mpr ⟨held', takes', rfl⟩
  have same : default.put key held = default.put key held' := Except.ok.inj (put.symm.trans put')
  calc held = (default.put key held).value key := (value_put_self default key held).symm
    _ = (default.put key held').value key := by rw [same]
    _ = held' := value_put_self default key held'

theorem field_or_other (first : String) (item : Variable) :
    (∃ (key : Key) (text : String), item = ⟨key.nameUnder first, text⟩) ∨
      ∀ key : Key, item.name ≠ key.nameUnder first := by
  by_cases named : ∃ key : Key, item.name = key.nameUnder first
  · obtain ⟨key, same⟩ := named
    exact .inl ⟨key, item.value, by rw [← same]⟩
  · exact .inr (not_exists.mp named)

theorem overrideBy_other {item : Variable} (other : ∀ key : Key, item.name ≠ key.nameUnder first)
    (configuration : Configuration) : configuration.overrideBy first item = .ok configuration := by
  unfold overrideBy
  split
  · rfl
  · next setter found =>
      obtain ⟨key, named⟩ := exists_nameUnder found
      exact absurd named (other key)

theorem overrideBy_taken {held : key.Value} (takes : key.Takes text held)
    (configuration : Configuration) :
    configuration.overrideBy first ⟨key.nameUnder first, text⟩ =
      .ok (configuration.put key held) := by
  obtain ⟨setter, found, puts⟩ := setterOf_nameUnder first key
  have put := (puts text configuration _).mpr ⟨held, takes, rfl⟩
  simp only [overrideBy, found, put, Except.mapError]

theorem overrideBy_refused (first : String) (refused : ∀ held, ¬key.Takes text held)
    (configuration : Configuration) :
    ∃ reason, configuration.overrideBy first ⟨key.nameUnder first, text⟩ =
      .error (.invalidVariable (key.nameUnder first) reason) := by
  obtain ⟨setter, found, puts⟩ := setterOf_nameUnder first key
  cases step : setter text configuration with
  | ok configuration' =>
      obtain ⟨held, takes, -⟩ := (puts text configuration configuration').mp step
      exact absurd takes (refused held)
  | error reason =>
      refine ⟨reason, ?_⟩
      simp only [overrideBy, found, step, Except.mapError]

/-! ## All variables -/

/-- What comes of some variables: a field that has a variable holds what its text gives, and every
other field holds what it held. -/
structure Follows (first : String) (items : List Variable) (before after : Configuration) :
    Prop where
  taken : ∀ (key : Key) text, ⟨key.nameUnder first, text⟩ ∈ items →
    key.Takes text (after.value key)
  kept : ∀ key : Key, key.nameUnder first ∉ items.map Variable.name →
    after.value key = before.value key

theorem Follows.unique {after : Configuration}
    (follows : Follows first items configuration configuration')
    (follows' : Follows first items configuration after) : configuration' = after := by
  refine ext_value fun key => ?_
  by_cases present : key.nameUnder first ∈ items.map Variable.name
  · obtain ⟨⟨name, text⟩, mem, rfl⟩ := List.mem_map.mp present
    exact (follows.taken key text mem).unique (follows'.taken key text mem)
  · exact (follows.kept key present).trans (follows'.kept key present).symm

/-- Every text for a field gives a value. -/
def Acceptable (first : String) (items : List Variable) : Prop :=
  ∀ (key : Key) text, ⟨key.nameUnder first, text⟩ ∈ items → ∃ held, key.Takes text held

theorem Follows.cons_other {item : Variable}
    (other : ∀ key : Key, item.name ≠ key.nameUnder first)
    (follows : Follows first items configuration configuration') :
    Follows first (item :: items) configuration configuration' := by
  constructor
  · intro key text mem
    rcases List.mem_cons.mp mem with rfl | mem
    · exact absurd rfl (other key)
    · exact follows.taken key text mem
  · intro key absent
    exact follows.kept key fun present => absent (List.mem_cons_of_mem _ present)

theorem Follows.cons_taken {held : key.Value} (takes : key.Takes text held)
    (absent : key.nameUnder first ∉ items.map Variable.name)
    (follows : Follows first items (configuration.put key held) configuration') :
    Follows first (⟨key.nameUnder first, text⟩ :: items) configuration configuration' := by
  constructor
  · intro other given mem
    rcases List.mem_cons.mp mem with same | mem
    · obtain ⟨named, rfl⟩ := Variable.mk.inj same
      cases nameUnder_inj named
      rw [follows.kept key absent, value_put_self]
      exact takes
    · exact follows.taken other given mem
  · intro other absent'
    have different : other ≠ key := by
      rintro rfl
      exact absent' List.mem_cons_self
    rw [follows.kept other fun present => absent' (List.mem_cons_of_mem _ present),
      value_put_of_ne configuration different]

/-- Variables whose texts all give values override their fields, one after another. -/
theorem overrideAll_follows (distinct : (items.map Variable.name).Nodup)
    (acceptable : Acceptable first items) (configuration : Configuration) :
    ∃ configuration', configuration.overrideAll first items = .ok configuration' ∧
      Follows first items configuration configuration' := by
  induction items generalizing configuration with
  | nil => exact ⟨configuration, rfl, nofun, fun _ _ => rfl⟩
  | cons item rest ih =>
      obtain ⟨absent, distinct'⟩ := List.nodup_cons.mp distinct
      have acceptable' : Acceptable first rest :=
        fun key text mem => acceptable key text (List.mem_cons_of_mem _ mem)
      simp only [overrideAll, List.foldlM_cons]
      rcases field_or_other first item with ⟨key, text, rfl⟩ | other
      · obtain ⟨held, takes⟩ := acceptable key text List.mem_cons_self
        obtain ⟨configuration', overridden, follows⟩ :=
          ih distinct' acceptable' (configuration.put key held)
        rw [overrideBy_taken takes]
        exact ⟨configuration', overridden, follows.cons_taken takes absent⟩
      · obtain ⟨configuration', overridden, follows⟩ := ih distinct' acceptable' configuration
        rw [overrideBy_other other]
        exact ⟨configuration', overridden, follows.cons_other other⟩

/-- A text that gives no value ends the overriding, be it the first of them or another. -/
theorem overrideAll_refused (mem : ⟨key.nameUnder first, text⟩ ∈ items)
    (refused : ∀ held, ¬key.Takes text held) (configuration : Configuration) :
    ∃ (key : Key) (text reason : String), ⟨key.nameUnder first, text⟩ ∈ items ∧
      (∀ held, ¬key.Takes text held) ∧ configuration.overrideAll first items =
        .error (.invalidVariable (key.nameUnder first) reason) := by
  induction items generalizing configuration with
  | nil => cases mem
  | cons item rest ih =>
      have goesOn {next : Configuration} (stepped : configuration.overrideBy first item = .ok next)
          (later : ⟨key.nameUnder first, text⟩ ∈ rest) :
          ∃ (key : Key) (text reason : String), ⟨key.nameUnder first, text⟩ ∈ item :: rest ∧
            (∀ held, ¬key.Takes text held) ∧ configuration.overrideAll first (item :: rest) =
              .error (.invalidVariable (key.nameUnder first) reason) := by
        obtain ⟨key, text, reason, among, refused, failed⟩ := ih later next
        refine ⟨key, text, reason, List.mem_cons_of_mem _ among, refused, ?_⟩
        simp only [overrideAll, List.foldlM_cons, stepped]
        exact failed
      rcases field_or_other first item with ⟨other, given, rfl⟩ | other
      · by_cases taken : ∃ held, other.Takes given held
        · obtain ⟨held, takes⟩ := taken
          refine goesOn (overrideBy_taken takes configuration) ?_
          rcases List.mem_cons.mp mem with same | later
          · obtain ⟨named, rfl⟩ := Variable.mk.inj same
            cases nameUnder_inj named
            exact absurd takes (refused held)
          · exact later
        · obtain ⟨reason, failed⟩ := overrideBy_refused first (not_exists.mp taken) configuration
          refine ⟨other, given, reason, List.mem_cons_self, not_exists.mp taken, ?_⟩
          simp only [overrideAll, List.foldlM_cons, failed]
          rfl
      · refine goesOn (overrideBy_other other configuration) ?_
        rcases List.mem_cons.mp mem with same | later
        · exact absurd (congrArg Variable.name same.symm) (other key)
        · exact later

theorem overrideAll_other {item : Variable}
    (other : ∀ key : Key, item.name ≠ key.nameUnder first) (configuration : Configuration)
    (before after : List Variable) :
    configuration.overrideAll first (before ++ item :: after) =
      configuration.overrideAll first (before ++ after) := by
  simp only [overrideAll, List.foldlM_append, List.foldlM_cons, overrideBy_other other]
  rfl

/-- The variables of an environment override the fields that they name, in any order.  When their
texts all give values, each order leads to the one configuration in which every field follows its
variable; a variable that names no field changes nothing; and when some text gives no value, each
order of loading ends with such a variable. -/
theorem overriding_is_independent_of_order (first : String) (environment : Environment) :
    (Acceptable first environment.items → ∀ configuration, ∃ configuration',
      Follows first environment.items configuration configuration' ∧
        ∀ items, items.Perm environment.items →
          configuration.overrideAll first items = .ok configuration') ∧
      (∀ configuration after after', Follows first environment.items configuration after →
        Follows first environment.items configuration after' → after = after') ∧
      (∀ item : Variable, (∀ key : Key, item.name ≠ key.nameUnder first) →
        ∀ configuration before after,
          overrideAll first configuration (before ++ item :: after) =
            overrideAll first configuration (before ++ after)) ∧
      ∀ (key : Key) text, ⟨key.nameUnder first, text⟩ ∈ environment.items →
        (∀ held, ¬key.Takes text held) → ∀ loader : Loader, loader.variablePart = some first →
          loader.environment.items.Perm environment.items →
            ∃ (key : Key) (text reason : String), ⟨key.nameUnder first, text⟩ ∈ environment.items ∧
              (∀ held, ¬key.Takes text held) ∧
              loader.load = .error (.invalidVariable (key.nameUnder first) reason) := by
  refine ⟨?_, ?_, ?_, ?_⟩
  · intro acceptable configuration
    have anyOrder (items : List Variable) (order : items.Perm environment.items) :
        ∃ configuration', configuration.overrideAll first items = .ok configuration' ∧
          Follows first environment.items configuration configuration' := by
      have distinct : (items.map Variable.name).Nodup :=
        (order.map Variable.name).nodup_iff.mpr environment.distinct
      have acceptable' : Acceptable first items :=
        fun key text mem => acceptable key text (order.mem_iff.mp mem)
      obtain ⟨configuration', overridden, follows⟩ :=
        overrideAll_follows distinct acceptable' configuration
      refine ⟨configuration', overridden, ?_, ?_⟩
      · intro key text mem
        exact follows.taken key text (order.mem_iff.mpr mem)
      · intro key absent
        exact follows.kept key fun present =>
          absent ((order.map Variable.name).mem_iff.mp present)
    obtain ⟨configuration', -, follows⟩ := anyOrder environment.items (List.Perm.refl _)
    refine ⟨configuration', follows, ?_⟩
    intro items order
    obtain ⟨other, overridden, follows'⟩ := anyOrder items order
    rw [overridden, follows'.unique follows]
  · intro configuration after after' follows follows'
    exact follows.unique follows'
  · intro item other configuration before after
    exact overrideAll_other other configuration before after
  · intro key text mem refused loader part order
    obtain ⟨key, text, reason, among, refused, failed⟩ :=
      overrideAll_refused (order.mem_iff.mpr mem) refused loader.configuration
    refine ⟨key, text, reason, order.mem_iff.mp among, refused, ?_⟩
    simp only [Loader.load, Loader.overridden, part, failed]
    rfl

namespace SampleVariables

def named : Configuration := Configuration.default.put .serviceName "edge"

def grid : Variable := ⟨Key.policySetId.nameUnder "ARBITER", "grid"⟩

def told (text : String) : Variable := ⟨Key.metricsEnabled.nameUnder "ARBITER", text⟩

def environment (text : String) : Environment :=
  ⟨[grid, told text], (by decide : [grid.name, (told "").name].Nodup)⟩

end SampleVariables

open SampleVariables in
/-- Two variables override their fields in either order, and leave the name of the service; a word
that is no truth value is refused, whichever comes first. -/
theorem sample_variables_settle :
    (∃ configuration, named.overrideAll "ARBITER" [grid, told "false"] = .ok configuration ∧
      named.overrideAll "ARBITER" [told "false", grid] = .ok configuration ∧
      configuration.policy.policySetId = "grid" ∧ configuration.telemetry.metrics.enabled = false ∧
      configuration.service.serviceName = "edge") ∧
      ∃ (key : Key) (text reason : String),
        (Loader.mk named (some "ARBITER") ⟨[told "maybe", grid], by decide⟩).load =
            .error (.invalidVariable (key.nameUnder "ARBITER") reason) ∧
          ∀ held, ¬key.Takes text held := by
  have off : Key.metricsEnabled.Takes "false" false :=
    (by decide : IsFlag "false" false)
  constructor
  · obtain ⟨allTaken, -⟩ := overriding_is_independent_of_order "ARBITER" (environment "false")
    have acceptable : Acceptable "ARBITER" [grid, told "false"] := by
      intro key text mem
      rcases List.mem_cons.mp mem with first | second
      · obtain ⟨same, rfl⟩ := Variable.mk.inj first
        cases nameUnder_inj same
        exact ⟨"grid", rfl⟩
      · obtain ⟨same, rfl⟩ := Variable.mk.inj (List.mem_singleton.mp second)
        cases nameUnder_inj same
        exact ⟨false, off⟩
    obtain ⟨configuration, follows, anyOrder⟩ := allTaken acceptable named
    have unnamed : Key.serviceName.nameUnder "ARBITER" ∉
        [grid, told "false"].map Variable.name := by decide
    exact ⟨configuration, anyOrder _ (.refl _), anyOrder _ (.swap grid (told "false") []),
      follows.taken .policySetId "grid" List.mem_cons_self,
      (follows.taken .metricsEnabled "false" (.tail _ List.mem_cons_self)).unique off,
      follows.kept .serviceName unnamed⟩
  · obtain ⟨-, -, -, someRefused⟩ :=
      overriding_is_independent_of_order "ARBITER" (environment "maybe")
    have refused : ∀ held, ¬Key.metricsEnabled.Takes "maybe" held := by
      intro held
      change ¬IsFlag "maybe" held
      cases held <;> decide
    obtain ⟨key, text, reason, -, refused', failed⟩ := someRefused .metricsEnabled "maybe"
      (.tail _ List.mem_cons_self) refused
      ⟨named, some "ARBITER", ⟨[told "maybe", grid], by decide⟩⟩ rfl (.swap grid (told "maybe") [])
    exact ⟨key, text, reason, failed, refused'⟩

end Configuration

end DecisionPoint
