import DecisionPoint.Configuration.Loader
import DecisionPoint.Proofs.Json.Partial
import DecisionPoint.Proofs.Json.Records

/-!
# Configurations in part

A document may leave out any part of a configuration, down to a single field, and what it leaves out
is at its default.  It may not hold anything beside the fields.  Each section tells for itself how
its document is completed; the sections are put together as they are nested.
-/

set_option autoImplicit false

namespace DecisionPoint

open Json

/-! ## Defaults in place of fields -/

/-- The settings with defaults for the fields that are deleted, by their paths in a document. -/
def ServiceSettings.withDefaults (deleted : List String → Bool) (settings : ServiceSettings) :
    ServiceSettings where
  serviceName := if deleted ["service_name"] then default.serviceName else settings.serviceName
  entityId := if deleted ["entity_id"] then default.entityId else settings.entityId
  httpAddress := if deleted ["http_addr"] then default.httpAddress else settings.httpAddress
  adminAddress := if deleted ["admin_addr"] then default.adminAddress else settings.adminAddress
  shutdownTimeoutSecs :=
    if deleted ["shutdown_timeout_secs"] then default.shutdownTimeoutSecs
    else settings.shutdownTimeoutSecs
  requestTimeoutMillis :=
    if deleted ["request_timeout_ms"] then default.requestTimeoutMillis
    else settings.requestTimeoutMillis
  pointTimeoutMillis :=
    if deleted ["pip_timeout_ms"] then default.pointTimeoutMillis
    else settings.pointTimeoutMillis

def PolicySettings.withDefaults (deleted : List String → Bool) (settings : PolicySettings) :
    PolicySettings where
  policySetId := if deleted ["policy_set_id"] then default.policySetId else settings.policySetId
  administrationPoints :=
    if deleted ["paps"] then default.administrationPoints else settings.administrationPoints
  retentionIntervalMins :=
    if deleted ["retention_interval_mins"] then default.retentionIntervalMins
    else settings.retentionIntervalMins
  fetchTimeoutMillis :=
    if deleted ["fetch_timeout_ms"] then default.fetchTimeoutMillis
    else settings.fetchTimeoutMillis
  startupRetries :=
    if deleted ["startup_retries"] then default.startupRetries else settings.startupRetries
  startupBackoffMillis :=
    if deleted ["startup_backoff_ms"] then default.startupBackoffMillis
    else settings.startupBackoffMillis

def AdmissionSettings.withDefaults (deleted : List String → Bool) (settings : AdmissionSettings) :
    AdmissionSettings where
  maxRequests := if deleted ["max_requests"] then default.maxRequests else settings.maxRequests
  maxQueueSize :=
    if deleted ["max_request_queue_size"] then default.maxQueueSize else settings.maxQueueSize
  unboundedQueue :=
    if deleted ["unbounded_queue"] then default.unboundedQueue else settings.unboundedQueue

def LoggingSettings.withDefaults (deleted : List String → Bool) (settings : LoggingSettings) :
    LoggingSettings where
  enabled := if deleted ["enabled"] then default.enabled else settings.enabled
  level := if deleted ["level"] then default.level else settings.level
  format := if deleted ["format"] then default.format else settings.format
  includeLocation :=
    if deleted ["include_location"] then default.includeLocation else settings.includeLocation

def MetricsSettings.withDefaults (deleted : List String → Bool) (settings : MetricsSettings) :
    MetricsSettings where
  enabled := if deleted ["enabled"] then default.enabled else settings.enabled
  address := if deleted ["addr"] then default.address else settings.address

def TelemetrySettings.withDefaults (deleted : List String → Bool) (settings : TelemetrySettings) :
    TelemetrySettings where
  logging :=
    if deleted ["logging"] then default.logging
    else settings.logging.withDefaults fun path => deleted ("logging" :: path)
  metrics :=
    if deleted ["metrics"] then default.metrics
    else settings.metrics.withDefaults fun path => deleted ("metrics" :: path)

def Configuration.withDefaults (deleted : List String → Bool) (configuration : Configuration) :
    Configuration where
  service :=
    if deleted ["service"] then default.service
    else configuration.service.withDefaults fun path => deleted ("service" :: path)
  policy :=
    if deleted ["policy"] then default.policy
    else configuration.policy.withDefaults fun path => deleted ("policy" :: path)
  admission :=
    if deleted ["admission"] then default.admission
    else configuration.admission.withDefaults fun path => deleted ("admission" :: path)
  telemetry :=
    if deleted ["telemetry"] then default.telemetry
    else configuration.telemetry.withDefaults fun path => deleted ("telemetry" :: path)

namespace ServiceSettings

theorem isPlain_toJson (settings : ServiceSettings) : settings.toJson.isPlain = true := by
  rw [toJson, isPlain, arePlainMembers_iff]
  simp only [List.forall_mem_cons, isPlain_nat, true_and]
  exact ⟨rfl, rfl, rfl, rfl, List.forall_mem_nil _⟩

theorem read_without (deleted : List String → Bool) (settings : ServiceSettings) :
    (record .json).read .json (settings.toJson.without deleted) =
      .ok (settings.withDefaults deleted) :=
  Record.read_without (by decide)
    (.cons serviceName (fun _ => rfl) rfl <|
      .cons entityId (fun _ => rfl) rfl <|
      .cons httpAddress (fun _ => rfl) rfl <|
      .cons adminAddress (fun _ => rfl) rfl <|
      .cons shutdownTimeoutSecs (fun _ => rfl) (readWord_nat _ _ _) <|
      .cons requestTimeoutMillis (fun _ => rfl) (readWord_nat _ _ _) <|
      .cons pointTimeoutMillis (fun _ => rfl) (readWord_nat _ _ _) .nil)

theorem no_stranger {document : Json} {settings : ServiceSettings}
    (taken : (record .json).read .json document = .ok settings) :
    ¬HasStranger default.toJson document :=
  Record.no_stranger rfl (by decide) (by simp [record, field]) (by simp [record, nat]) taken

end ServiceSettings

namespace PolicySettings

theorem isPlain_toJson (settings : PolicySettings) : settings.toJson.isPlain = true := by
  have retries : (nat settings.startupRetries.toNat).isPlain = true := by
    have small : settings.startupRetries.toNat < maxWord :=
      Nat.lt_trans settings.startupRetries.toNat_lt (by decide)
    simp only [nat, isPlain, Number.isWord, Bool.and_eq_true, decide_eq_true_eq]
    omega
  rw [toJson, isPlain, arePlainMembers_iff]
  simp only [List.forall_mem_cons, isPlain_nat, isPlain_strings, retries, true_and]
  exact ⟨rfl, List.forall_mem_nil _⟩

theorem readUnsigned_retries (retries : UInt32) :
    readUnsigned .json 32 "u32" (nat retries.toNat) = .ok retries.toNat := by
  have fits : (0 : Int) ≤ retries.toNat ∧ (retries.toNat : Int) < Nat.pow 2 32 :=
    ⟨Int.natCast_nonneg _, Int.ofNat_lt.mpr retries.toNat_lt⟩
  rw [nat, readUnsigned, if_pos fits]
  rfl

theorem read_without (deleted : List String → Bool) (settings : PolicySettings) :
    (record .json).read .json (settings.toJson.without deleted) =
      .ok (settings.withDefaults deleted) := by
  have retries : UInt32.ofNat (if deleted ["startup_retries"] then default.startupRetries.toNat
      else settings.startupRetries.toNat) =
        if deleted ["startup_retries"] then default.startupRetries
        else settings.startupRetries := by
    split
    · rfl
    · exact UInt32.ofNat_toNat
  rw [withDefaults, ← retries]
  exact Record.read_without (by decide)
    (.cons policySetId (fun _ => rfl) rfl <|
      .cons administrationPoints (fun _ => rfl) (readList_strings _ _) <|
      .cons retentionIntervalMins (fun _ => rfl) (readWord_nat _ _ _) <|
      .cons fetchTimeoutMillis (fun _ => rfl) (readWord_nat _ _ _) <|
      .cons (fun draft => draft.startupRetries.toNat)
        (fun draft => by rw [UInt32.ofNat_toNat]) (readUnsigned_retries _) <|
      .cons startupBackoffMillis (fun _ => rfl) (readWord_nat _ _ _) .nil)

theorem no_stranger {document : Json} {settings : PolicySettings}
    (taken : (record .json).read .json document = .ok settings) :
    ¬HasStranger default.toJson document :=
  Record.no_stranger rfl (by decide) (by simp [record, field])
    (by simp [record, nat, strings]) taken

end PolicySettings

namespace AdmissionSettings

theorem isPlain_toJson (settings : AdmissionSettings) : settings.toJson.isPlain = true := by
  rw [toJson, isPlain, arePlainMembers_iff]
  simp only [List.forall_mem_cons, isPlain_nat, true_and]
  exact ⟨rfl, List.forall_mem_nil _⟩

theorem read_without (deleted : List String → Bool) (settings : AdmissionSettings) :
    (record .json).read .json (settings.toJson.without deleted) =
      .ok (settings.withDefaults deleted) :=
  Record.read_without (by decide)
    (.cons maxRequests (fun _ => rfl) (readWord_nat _ _ _) <|
      .cons maxQueueSize (fun _ => rfl) (readWord_nat _ _ _) <|
      .cons unboundedQueue (fun _ => rfl) rfl .nil)

theorem no_stranger {document : Json} {settings : AdmissionSettings}
    (taken : (record .json).read .json document = .ok settings) :
    ¬HasStranger default.toJson document :=
  Record.no_stranger rfl (by decide) (by simp [record, field]) (by simp [record, nat]) taken

end AdmissionSettings

theorem LogFormat.read_name (format : LogFormat) :
    read .json (.string format.name) = .ok format := by
  cases format <;> rfl

namespace LoggingSettings

theorem isPlain_toJson (settings : LoggingSettings) : settings.toJson.isPlain = true := rfl

theorem read_without (deleted : List String → Bool) (settings : LoggingSettings) :
    (record .json).read .json (settings.toJson.without deleted) =
      .ok (settings.withDefaults deleted) :=
  Record.read_without (by decide)
    (.cons enabled (fun _ => rfl) rfl <|
      .cons level (fun _ => rfl) rfl <|
      .cons format (fun _ => rfl) (LogFormat.read_name _) <|
      .cons includeLocation (fun _ => rfl) rfl .nil)

theorem no_stranger {document : Json} {settings : LoggingSettings}
    (taken : (record .json).read .json document = .ok settings) :
    ¬HasStranger default.toJson document :=
  Record.no_stranger rfl (by decide) (by simp [record, field]) (by simp [record]) taken

end LoggingSettings

namespace MetricsSettings

theorem isPlain_toJson (settings : MetricsSettings) : settings.toJson.isPlain = true := by
  have address := plain_option Json.string (fun _ => rfl) settings.address
  rw [toJson, isPlain, arePlainMembers_iff]
  simp only [List.forall_mem_cons, address, true_and]
  exact ⟨rfl, List.forall_mem_nil _⟩

theorem read_without (deleted : List String → Bool) (settings : MetricsSettings) :
    (record .json).read .json (settings.toJson.without deleted) =
      .ok (settings.withDefaults deleted) := by
  have address (path : List String → Bool) :
      readOption (readString .json) ((option .string settings.address).without path) =
        .ok settings.address := by
    cases settings.address <;> rfl
  exact Record.read_without (by decide)
    (.cons enabled (fun _ => rfl) rfl <|
      .cons MetricsSettings.address (fun _ => rfl) (address _) .nil)

theorem no_stranger {document : Json} {settings : MetricsSettings}
    (taken : (record .json).read .json document = .ok settings) :
    ¬HasStranger default.toJson document :=
  Record.no_stranger rfl (by decide) (by simp [record, field])
    (by simp [record, default, option]) taken

end MetricsSettings

namespace TelemetrySettings

theorem isPlain_toJson (settings : TelemetrySettings) : settings.toJson.isPlain = true := by
  rw [toJson, isPlain, arePlainMembers_iff]
  simp only [List.forall_mem_cons]
  exact ⟨settings.logging.isPlain_toJson, settings.metrics.isPlain_toJson, List.forall_mem_nil _⟩

theorem read_without (deleted : List String → Bool) (settings : TelemetrySettings) :
    (record .json).read .json (settings.toJson.without deleted) =
      .ok (settings.withDefaults deleted) :=
  Record.read_without (by decide)
    (.cons logging (fun _ => rfl) (settings.logging.read_without _) <|
      .cons metrics (fun _ => rfl) (settings.metrics.read_without _) .nil)

theorem no_stranger {document : Json} {settings : TelemetrySettings}
    (taken : (record .json).read .json document = .ok settings) :
    ¬HasStranger default.toJson document :=
  Record.no_stranger rfl (by decide) (by simp [record, field])
    (.cons (field_outlined fun _ _ => LoggingSettings.no_stranger) <|
      .cons (field_outlined fun _ _ => MetricsSettings.no_stranger) .nil) taken

end TelemetrySettings

namespace Configuration

theorem isPlain_toJson (configuration : Configuration) : configuration.toJson.isPlain = true := by
  rw [toJson, isPlain, arePlainMembers_iff]
  simp only [List.forall_mem_cons]
  exact ⟨configuration.service.isPlain_toJson, configuration.policy.isPlain_toJson,
    configuration.admission.isPlain_toJson, configuration.telemetry.isPlain_toJson,
    List.forall_mem_nil _⟩

theorem read_without (deleted : List String → Bool) (configuration : Configuration) :
    read .json (configuration.toJson.without deleted) =
      .ok (configuration.withDefaults deleted) :=
  Record.read_without (by decide)
    (.cons service (fun _ => rfl) (configuration.service.read_without _) <|
      .cons policy (fun _ => rfl) (configuration.policy.read_without _) <|
      .cons admission (fun _ => rfl) (configuration.admission.read_without _) <|
      .cons telemetry (fun _ => rfl) (configuration.telemetry.read_without _) .nil)

theorem no_stranger {document : Json} {configuration : Configuration}
    (taken : read .json document = .ok configuration) : ¬HasStranger default.toJson document :=
  Record.no_stranger rfl (by decide) (by simp [record, field])
    (.cons (field_outlined fun _ _ => ServiceSettings.no_stranger) <|
      .cons (field_outlined fun _ _ => PolicySettings.no_stranger) <|
      .cons (field_outlined fun _ _ => AdmissionSettings.no_stranger) <|
      .cons (field_outlined fun _ _ => TelemetrySettings.no_stranger) .nil) taken

/-- The second document has an empty section where the first has none. -/
inductive AddsEmpty : Json → Json → Prop where
  | atRoot {name : String} {before after : List (String × Json)}
      (named : name ∈ ["service", "policy", "admission", "telemetry"])
      (absent : name ∉ (before ++ after).map Prod.fst) :
      AddsEmpty (.object (before ++ after)) (.object (before ++ (name, .object []) :: after))
  | inTelemetry {name : String} {before after first last : List (String × Json)}
      (named : name ∈ ["logging", "metrics"]) (absent : name ∉ (before ++ after).map Prod.fst) :
      AddsEmpty (.object (first ++ ("telemetry", .object (before ++ after)) :: last))
        (.object (first ++ ("telemetry", .object (before ++ (name, .object []) :: after)) :: last))

theorem AddsEmpty.hasValueAt_eq {document document' : Json} (adds : AddsEmpty document document') :
    document.hasValueAt 0 = document'.hasValueAt 0 := by
  have empty (level : Nat) (shallow : level < maxDepth) :
      (Json.object []).hasValueAt level = true :=
    (hasValueAt_object_iff [] level).mpr ⟨shallow, List.forall_mem_nil _⟩
  cases adds with
  | atRoot named absent =>
      rw [Bool.eq_iff_iff]
      simp only [hasValueAt_object_iff, List.forall_mem_append, List.forall_mem_cons,
        empty 1 (by decide), true_and]
  | inTelemetry named absent =>
      rw [Bool.eq_iff_iff]
      simp only [hasValueAt_object_iff, List.forall_mem_append, List.forall_mem_cons,
        empty 2 (by decide), true_and]

theorem service_part :
    (record .json).HasPart "service" (ServiceSettings.record .json) service fun d v =>
      { d with service := v } :=
  ⟨rfl, by simp [Record.Serves, record], fun _ => rfl, rfl, rfl⟩

theorem policy_part :
    (record .json).HasPart "policy" (PolicySettings.record .json) policy fun d v =>
      { d with policy := v } :=
  ⟨rfl, by simp [Record.Serves, record], fun _ => rfl, rfl, rfl⟩

theorem admission_part :
    (record .json).HasPart "admission" (AdmissionSettings.record .json) admission fun d v =>
      { d with admission := v } :=
  ⟨rfl, by simp [Record.Serves, record], fun _ => rfl, rfl, rfl⟩

theorem telemetry_part :
    (record .json).HasPart "telemetry" (TelemetrySettings.record .json) telemetry fun d v =>
      { d with telemetry := v } :=
  ⟨rfl, by simp [Record.Serves, record], fun _ => rfl, rfl, rfl⟩

theorem logging_part :
    (TelemetrySettings.record .json).HasPart "logging" (LoggingSettings.record .json)
      TelemetrySettings.logging fun d v => { d with logging := v } :=
  ⟨rfl, by simp [Record.Serves, TelemetrySettings.record], fun _ => rfl, rfl, rfl⟩

theorem metrics_part :
    (TelemetrySettings.record .json).HasPart "metrics" (MetricsSettings.record .json)
      TelemetrySettings.metrics fun d v => { d with metrics := v } :=
  ⟨rfl, by simp [Record.Serves, TelemetrySettings.record], fun _ => rfl, rfl, rfl⟩

theorem AddsEmpty.read_eq {document document' : Json} (adds : AddsEmpty document document') :
    read .json document = read .json document' := by
  cases adds with
  | atRoot named absent =>
      simp only [List.mem_cons, List.not_mem_nil, or_false] at named
      rcases named with rfl | rfl | rfl | rfl
      · exact (service_part.read_insert absent).symm
      · exact (policy_part.read_insert absent).symm
      · exact (admission_part.read_insert absent).symm
      · exact (telemetry_part.read_insert absent).symm
  | inTelemetry named absent =>
      refine telemetry_part.read_congr ?_ _ _
      simp only [List.mem_cons, List.not_mem_nil, or_false] at named
      rcases named with rfl | rfl
      · exact (logging_part.read_insert absent).symm
      · exact (metrics_part.read_insert absent).symm

end Configuration

namespace Loader

variable (loader : Loader)

theorem withText_json (text : String) :
    loader.withText text "json" =
      match decode (Configuration.read .json) text with
      | .ok configuration => .ok (loader.withConfiguration configuration)
      | .error cause => .error (.notJson cause) := by
  have lower : Text.lowercase "json" = "json" := by decide
  rw [withText, lower]
  simp only [ofText]
  cases decode (Configuration.read .json) text <;> rfl

theorem withText_without (deleted : List String → Bool) (configuration : Configuration) :
    (loader.withText (configuration.toJson.without deleted).text "json").map loadUnvalidated =
      .ok (configuration.withDefaults deleted) := by
  have plain := isPlain_without deleted configuration.isPlain_toJson
  rw [withText_json, decode_text plain (configuration.read_without deleted)]
  rfl

theorem withText_toJson (configuration : Configuration) :
    (loader.withText configuration.toJson.text "json").map loadUnvalidated = .ok configuration := by
  have whole := loader.withText_without (fun _ => false) configuration
  rw [without_nothing] at whole
  exact whole

theorem withText_addsEmpty {text text' : String} {document document' : Json}
    (parsed : parse text = some document) (parsed' : parse text' = some document')
    (adds : Configuration.AddsEmpty document document') :
    loader.withText text "json" = loader.withText text' "json" := by
  rw [withText_json, withText_json, decode_congr parsed parsed' adds.read_eq adds.hasValueAt_eq]

theorem withText_stranger {text : String} {document : Json} (parsed : parse text = some document)
    (stranger : HasStranger Configuration.default.toJson document) :
    ∃ cause, loader.withText text "json" = .error (.notJson cause) := by
  rw [withText_json]
  cases taken : decode (Configuration.read .json) text with
  | error cause => exact ⟨cause, rfl⟩
  | ok configuration =>
      obtain ⟨document', parsed', read⟩ := decode_ok_iff.mp taken
      rw [parsed] at parsed'
      cases parsed'
      exact absurd stranger (Configuration.no_stranger read)

/-- A text gives a configuration with the defaults for exactly the parts that it leaves out, be they
fields or sections; one that leaves nothing out gives the whole configuration.  To leave a section
out is to leave it empty.  A text with a member that is no field, in any section or beside them, is
refused, whatever else it holds. -/
theorem partial_documents_are_completed :
    (∀ (configuration : Configuration) (deleted : List String → Bool),
      (loader.withText (configuration.toJson.without deleted).text "json").map loadUnvalidated =
        .ok (configuration.withDefaults deleted)) ∧
      (∀ configuration : Configuration,
        (loader.withText configuration.toJson.text "json").map loadUnvalidated =
          .ok configuration) ∧
      (∀ text text' document document', parse text = some document →
        parse text' = some document' → Configuration.AddsEmpty document document' →
          loader.withText text "json" = loader.withText text' "json") ∧
      ∀ text document, parse text = some document →
        HasStranger Configuration.default.toJson document →
          ∃ cause, loader.withText text "json" = .error (.notJson cause) := by
  refine ⟨?_, loader.withText_toJson, ?_, ?_⟩
  · intro configuration deleted
    exact loader.withText_without deleted configuration
  · intro text text' document document' parsed parsed' adds
    exact loader.withText_addsEmpty parsed parsed' adds
  · intro text document parsed stranger
    exact loader.withText_stranger parsed stranger

/-- Logging left out or empty, and a misspelt name in a section. -/
theorem partial_texts_settle :
    (new .empty).withText (Json.object [("telemetry", .object [("metrics", .object [])])]).text
        "json" =
      (new .empty).withText
        (Json.object
          [("telemetry", .object [("logging", .object []), ("metrics", .object [])])]).text
        "json" ∧
      ∃ cause, (new .empty).withText (Json.object [("service", .object [("port", .null)])]).text
        "json" = .error (.notJson cause) := by
  obtain ⟨-, -, empty, stranger⟩ := partial_documents_are_completed (new .empty)
  constructor
  · refine empty _ _ _ _ (parse_text _ rfl) (parse_text _ rfl) ?_
    exact @Configuration.AddsEmpty.inTelemetry "logging" [] _ [] _ (by decide) (by decide)
  · refine stranger _ _ (parse_text _ rfl) ?_
    refine .within (.object _) (List.mem_cons_self ..) (List.mem_cons_self ..) ?_
    exact .here (List.mem_cons_self ..) (by decide)

end Loader

end DecisionPoint
