import DecisionPoint.Bootstrap
import DecisionPoint.Proofs.Successes
import DecisionPoint.Telemetry.Setup

/-!
# Valid configurations are those that the components accept

Validation repeats what the cache, the admission shell, the listeners and the metrics check of their
options on their own.  In between stand the conversions to the options of the components: minutes
become a span, which must not be zero, a queue without bound has no capacity, and metrics that are
switched off have an address that nobody reads.
-/

set_option autoImplicit false

namespace DecisionPoint

/-! ## Components -/

theorem Span.isZero_ofMinutes (minutes : Nat) :
    (Span.ofMinutes minutes).isZero = true ↔ minutes = 0 := by
  have words : 1 < UInt64.size := by decide
  have whole : (ofMinutes minutes).isZero = decide (min (minutes * 60) (UInt64.size - 1) = 0) :=
    Bool.and_true _
  rw [whole, decide_eq_true_eq]
  omega

theorem SocketAddress.bind_ok_iff (text : String) (address : SocketAddress) :
    bind [] text = .ok address ↔ parse text = some address := by
  unfold bind
  cases parse text with
  | none => simp
  | some found => simp

theorem PolicyCache.startRefresh_accepts_iff (cache : PolicyCache) (number : Nat) :
    (∀ reason, cache.startRefresh number ≠ .error (.config reason)) ↔
      cache.options.refreshInterval.isZero = false := by
  unfold startRefresh
  by_cases zero : cache.options.refreshInterval.isZero = true
  · simp [zero]
  · rw [if_neg zero, Bool.not_eq_true] at *
    simp only [zero, iff_true]
    intro reason
    split <;> simp

theorem Shell.start_accepts_iff (options : AdmissionOptions) :
    (∀ reason, Shell.start options ≠ .error (.config reason)) ↔
      options.maxRequests ≠ 0 ∧ options.queueCapacity ≠ some 0 := by
  unfold start
  by_cases workers : options.maxRequests = 0
  · simp [workers]
  · by_cases full : options.queueCapacity = some 0
    · simp [workers, full]
    · simp [workers, full]

theorem Telemetry.installMetrics_accepts_iff (telemetry : Telemetry) (options : MetricsOptions) :
    (∀ reason, telemetry.installMetrics options ≠ .error (.address reason)) ↔
      (options.enabled = true → ∀ text, options.address = some text →
        ∃ address, SocketAddress.parse text = some address) := by
  obtain ⟨enabled, address⟩ := options
  cases enabled with
  | false => simp [installMetrics]
  | true =>
      cases address with
      | none =>
          simp only [installMetrics, checkAddress, bind, Except.bind, if_true]
          split <;> simp
      | some text =>
          cases parsed : SocketAddress.parse text with
          | none => simp [installMetrics, checkAddress, parsed, bind, Except.bind]
          | some found =>
              simp only [installMetrics, checkAddress, parsed, bind, Except.bind, if_true,
                Option.isSome_some]
              split <;> simp [parsed]

theorem AdministrationClient.new_ok (policySetId : String) {endpoints : List String}
    (present : endpoints ≠ []) (timeout : Span) :
    ∃ client, new policySetId endpoints timeout = .ok client :=
  ⟨_, dif_neg present⟩

namespace Configuration

/-! ## What validation checks -/

theorem addressIn_ok_iff (field text : String) (address : SocketAddress) :
    addressIn field text = .ok address ↔ SocketAddress.parse text = some address := by
  unfold addressIn
  cases SocketAddress.parse text with
  | none => simp
  | some found => simp

theorem insist_ok_iff (condition : Bool) (field reason : String) :
    insist condition field reason = .ok () ↔ condition = true := by
  unfold insist
  cases condition <;> simp

theorem isWebAddress_iff (text : String) :
    isWebAddress text = true ↔
      ∃ rest, text = "http://" ++ rest ∨ text = "https://" ++ rest := by
  have begins (start : String) :
      start.toList.isPrefixOf text.toList = true ↔ ∃ rest, text = start ++ rest := by
    rw [List.isPrefixOf_iff_prefix]
    constructor
    · rintro ⟨rest, same⟩
      refine ⟨.ofList rest, String.toList_inj.mp ?_⟩
      rw [String.toList_append, String.toList_ofList, same]
    · rintro ⟨rest, same⟩
      exact ⟨rest.toList, by rw [same, String.toList_append]⟩
  rw [isWebAddress, Bool.or_eq_true, begins, begins, exists_or]

theorem validatePolicy_ok_iff (settings : PolicySettings) :
    validatePolicy settings = .ok () ↔
      settings.retentionIntervalMins ≠ 0 ∧
        ∀ point ∈ settings.administrationPoints, isWebAddress point = true := by
  simp only [validatePolicy, bind_ok_iff, exists_and_right, exists_ok_iff, forM_ok_iff,
    insist_ok_iff]
  simp

theorem validateAdmission_ok_iff (settings : AdmissionSettings) :
    validateAdmission settings = .ok () ↔
      settings.maxRequests ≠ 0 ∧ (settings.unboundedQueue = true ∨ settings.maxQueueSize ≠ 0) := by
  simp only [validateAdmission, bind_ok_iff, exists_and_right, exists_ok_iff, insist_ok_iff]
  simp

theorem validateMetrics_ok_iff (settings : MetricsSettings) :
    validateMetrics settings = .ok () ↔
      (settings.enabled = true → ∀ text, settings.address = some text →
        ∃ address, SocketAddress.parse text = some address) := by
  obtain ⟨enabled, address⟩ := settings
  cases enabled with
  | false => simp [validateMetrics]
  | true =>
      cases address with
      | none => simp [validateMetrics]
      | some text =>
          cases parsed : SocketAddress.parse text with
          | none => simp [validateMetrics, addressIn, parsed, Except.map]
          | some found => simp [validateMetrics, addressIn, parsed, Except.map]

theorem validate_ok_iff (configuration : Configuration) :
    configuration.validate = .ok () ↔
      (∃ address, configuration.httpAddress = .ok address) ∧
        (∃ address, configuration.adminAddress = .ok address) ∧
        validatePolicy configuration.policy = .ok () ∧
        validateAdmission configuration.admission = .ok () ∧
        validateMetrics configuration.telemetry.metrics = .ok () := by
  simp only [validate, bind_ok_iff, exists_and_right, exists_ok_iff]

/-! ## Validation and components -/

/-- Each component accepts its part of a configuration: the listeners, a cache and the telemetry of
a process, whatever these two hold already, and the admission shell.  Administration points are
asked over the web. -/
structure Accepted (configuration : Configuration) (cache : PolicyCache) (number : Nat)
    (telemetry : Telemetry) : Prop where
  points : ∀ point ∈ configuration.policy.administrationPoints,
    ∃ rest, point = "http://" ++ rest ∨ point = "https://" ++ rest
  http : ∃ address, SocketAddress.bind [] configuration.serverOptions.httpAddress = .ok address
  admin : ∃ address, SocketAddress.bind [] configuration.serverOptions.adminAddress = .ok address
  refresh : ∀ reason,
    { cache with options := configuration.cacheOptions }.startRefresh number ≠
      .error (.config reason)
  admission : ∀ reason, Shell.start configuration.admissionOptions ≠ .error (.config reason)
  metrics : ∀ reason,
    telemetry.installMetrics configuration.telemetryOptions.metrics ≠ .error (.address reason)

variable (configuration : Configuration)

theorem address_ok_iff_bind (field text : String) :
    (∃ address, addressIn field text = .ok address) ↔
      ∃ address, SocketAddress.bind [] text = .ok address := by
  simp only [addressIn_ok_iff, SocketAddress.bind_ok_iff]

theorem policy_ok_iff_refresh (cache : PolicyCache) (number : Nat) :
    validatePolicy configuration.policy = .ok () ↔
      (∀ point ∈ configuration.policy.administrationPoints,
        ∃ rest, point = "http://" ++ rest ∨ point = "https://" ++ rest) ∧
      ∀ reason, { cache with options := configuration.cacheOptions }.startRefresh number ≠
        .error (.config reason) := by
  have minutes := Span.isZero_ofMinutes configuration.policy.retentionIntervalMins.toNat
  rw [validatePolicy_ok_iff, PolicyCache.startRefresh_accepts_iff, ← Bool.not_eq_true]
  simp only [isWebAddress_iff, cacheOptions, minutes, ← UInt64.toNat_inj, UInt64.toNat_zero, ne_eq]
  exact and_comm

theorem admission_ok_iff_start :
    validateAdmission configuration.admission = .ok () ↔
      ∀ reason, Shell.start configuration.admissionOptions ≠ .error (.config reason) := by
  rw [validateAdmission_ok_iff, Shell.start_accepts_iff, admissionOptions]
  cases configuration.admission.unboundedQueue <;> simp

theorem validate_ok_iff_accepted (cache : PolicyCache) (number : Nat) (telemetry : Telemetry) :
    configuration.validate = .ok () ↔ configuration.Accepted cache number telemetry := by
  have http := address_ok_iff_bind "service.http_addr" configuration.service.httpAddress
  have admin := address_ok_iff_bind "service.admin_addr" configuration.service.adminAddress
  have metrics := (validateMetrics_ok_iff configuration.telemetry.metrics).trans
    (telemetry.installMetrics_accepts_iff configuration.telemetryOptions.metrics).symm
  rw [validate_ok_iff, httpAddress, adminAddress, http, admin,
    configuration.policy_ok_iff_refresh cache number, admission_ok_iff_start, metrics]
  constructor
  · rintro ⟨bound, adminBound, ⟨points, refresh⟩, admission, address⟩
    exact ⟨points, bound, adminBound, refresh, admission, address⟩
  · rintro ⟨points, bound, adminBound, refresh, admission, address⟩
    exact ⟨bound, adminBound, ⟨points, refresh⟩, admission, address⟩

theorem administrationClient_cases :
    (∃ client, configuration.administrationClient = .ok client) ∨
      ∃ field, configuration.administrationClient = .error (.missingField field) := by
  unfold administrationClient
  by_cases unnamed : configuration.policy.policySetId.isEmpty = true
  · exact .inr ⟨_, if_pos unnamed⟩
  · rw [if_neg unnamed]
    by_cases alone : configuration.policy.administrationPoints.isEmpty = true
    · exact .inr ⟨_, if_pos alone⟩
    · have present : configuration.policy.administrationPoints ≠ [] := by
        intro nothing
        rw [nothing] at alone
        exact alone rfl
      obtain ⟨client, made⟩ := AdministrationClient.new_ok configuration.policy.policySetId present
        ((limit? configuration.policy.fetchTimeoutMillis).getD defaultQueryLimit)
      simp only [if_neg alone, made]
      exact .inl ⟨_, rfl⟩

theorem assemble_ok_iff (source : ScriptedSource) (engine : Engine) (points : List Point)
    (registry : Option HandlerRegistry) (network : Nat → Exchange) (startedAt : Instant) :
    configuration.validate = .ok () ↔
      configuration.assemble ⟨some source, some engine, points, registry, network⟩ startedAt =
        .ok ⟨.new configuration.serviceOptions source engine points (registry.getD .empty)
          startedAt, configuration.serverOptions⟩ := by
  unfold assemble
  cases configuration.validate with
  | error fault =>
      constructor
      · intro impossible
        cases impossible
      · intro assembled
        cases assembled
  | ok _ =>
      constructor
      · intro _
        rfl
      · intro _
        rfl

/-- Validation agrees with the components: a configuration is valid exactly when its administration
points are web addresses and the listeners, the cache, the admission shell and the metrics accept
their parts.  The client of the administration points then lacks at most a field, and with a source
and an engine a service is put together. -/
theorem validation_agrees_with_components :
    (∀ cache number telemetry,
      configuration.validate = .ok () ↔ configuration.Accepted cache number telemetry) ∧
      ((∃ client, configuration.administrationClient = .ok client) ∨
        ∃ field, configuration.administrationClient = .error (.missingField field)) ∧
      ∀ source engine points registry network startedAt,
        configuration.validate = .ok () ↔
          configuration.assemble ⟨some source, some engine, points, registry, network⟩ startedAt =
            .ok ⟨.new configuration.serviceOptions source engine points (registry.getD .empty)
              startedAt, configuration.serverOptions⟩ :=
  ⟨configuration.validate_ok_iff_accepted, configuration.administrationClient_cases,
    configuration.assemble_ok_iff⟩

end Configuration

end DecisionPoint
