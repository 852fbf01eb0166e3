import DecisionPoint.Proofs.Json.Fields
import DecisionPoint.Proofs.Json.Canonical
import DecisionPoint.Proofs.Time.ReadBack
import DecisionPoint.ServiceStatus

/-!
# Policies and reports on them are read back

The content of a policy is any value; a reader keeps it in normal form, so a snapshot whose content
is in this form and not nested too deep is read back.  What is read of a text is always of this
kind.
-/

set_option autoImplicit false

namespace DecisionPoint

open Json

/-- What readers keep as the content of a policy that stands in an object: a document in normal
form, nested so that with the object it is no deeper than a value may be. -/
structure IsKept (content : Json) : Prop where
  canonical : Canonical content
  depth : content.depth < maxDepth

theorem readContent_of_kept {content : Json} (kept : IsKept content) :
    readContent 1 content = .ok content := by
  have value : content.hasValueAt 1 = true := by
    have depth := kept.depth
    simp only [hasValueAt, kept.canonical.readable, Bool.true_and, decide_eq_true_eq]
    omega
  rw [readContent, if_pos value, kept.canonical.canonical_eq]

theorem kept_of_readContent {value content : Json} (fits : Fits value)
    (taken : readContent 1 value = .ok content) : IsKept content := by
  unfold readContent at taken
  split at taken
  · next hasValue =>
      cases taken
      simp only [hasValueAt, Bool.and_eq_true, decide_eq_true_eq] at hasValue
      refine ⟨canonical_spec value hasValue.1 fits, ?_⟩
      calc value.canonical.depth ≤ value.depth := depth_canonical_le value
        _ < maxDepth := hasValue.2
  · cases taken

theorem Instant.isProper_of_read {dialect : Dialect} {value : Json} {instant : Instant}
    (taken : read dialect value = .ok instant) : instant.IsProper := by
  unfold read at taken
  split at taken
  · split at taken
    · next named =>
        cases taken
        exact parse_isProper named
    · cases taken
  · cases taken

theorem Json.fits_given {document : Json} (fits : Fits document) :
    ∀ value ∈ Record.given document, Fits value := by
  cases document with
  | array elements => exact fitsElements_iff.mp fits
  | rows elements => exact fitsElements_iff.mp fits
  | object members =>
      intro value mem
      obtain ⟨member, own, rfl⟩ := List.mem_map.mp mem
      exact fitsMembers_iff.mp fits member own
  | _ => exact nofun

namespace PolicyRef

theorem isPlain_toJson (reference : PolicyRef) : reference.toJson.isPlain = true := rfl

theorem read_toJson (reference : PolicyRef) : read reference.toJson = .ok reference := rfl

end PolicyRef

namespace PolicyDocument

theorem isPlain_toJson {policy : PolicyDocument} (kept : IsKept policy.document)
    (whole : IsWhole policy.document) : policy.toJson.isPlain = true := by
  rw [toJson, isPlain, arePlainMembers_iff]
  simp only [List.forall_mem_cons]
  exact ⟨rfl, rfl, rfl, kept.canonical.isPlain whole, nofun⟩

theorem read_toJson {policy : PolicyDocument} (kept : IsKept policy.document) :
    read 0 policy.toJson = .ok policy := by
  have content := readContent_of_kept kept
  simp [read, record, toJson, Record.read, Record.fillMembers, field, readString, content]
  rfl

theorem kept_of_read {document : Json} {policy : PolicyDocument} (fits : Fits document)
    (taken : read 0 document = .ok policy) : IsKept policy.document := by
  have keeps : (record 0).Keeps Fits fun draft => ∀ content ∈ draft.document, IsKept content := by
    simp only [Record.Keeps, record, List.forall_mem_cons]
    refine ⟨field_keeps fun _ _ _ _ _ kept => kept, field_keeps fun _ _ _ _ _ kept => kept,
      field_keeps fun _ _ _ _ _ kept => kept, field_keeps ?_, nofun⟩
    rintro _ value held fits taken _ _ ⟨⟩
    exact kept_of_readContent fits taken
  obtain ⟨draft, kept, finished⟩ := Record.read_keeps keeps nofun (fits_given fits) taken
  simp only [record, bind_ok_iff] at finished
  obtain ⟨id, -, version, -, same⟩ := finished
  cases same
  cases content : draft.document with
  | none => exact ⟨.null, show (0 : Nat) < maxDepth by decide⟩
  | some held => exact kept held content

end PolicyDocument

namespace PolicySnapshot

/-- A snapshot that can be read: its content is kept, and it was loaded at a time of the
calendar. -/
structure IsProper (snapshot : PolicySnapshot) : Prop where
  kept : IsKept snapshot.document
  loadedAt : snapshot.loadedAt.IsProper

theorem isPlain_toJson {snapshot : PolicySnapshot} (kept : IsKept snapshot.document)
    (whole : IsWhole snapshot.document) : snapshot.toJson.isPlain = true := by
  rw [toJson, isPlain, arePlainMembers_iff]
  simp only [List.forall_mem_cons]
  exact ⟨rfl, rfl, rfl, kept.canonical.isPlain whole, rfl, nofun⟩

theorem read_toJson {snapshot : PolicySnapshot} (proper : snapshot.IsProper) :
    read snapshot.toJson = .ok snapshot := by
  have content := readContent_of_kept proper.kept
  have loaded := Instant.read_toJson proper.loadedAt .json
  simp [read, record, toJson, Record.read, Record.fillMembers, field, readString, content, loaded]
  rfl

theorem isProper_of_read {document : Json} {snapshot : PolicySnapshot} (fits : Fits document)
    (taken : read document = .ok snapshot) : snapshot.IsProper := by
  have keeps : record.Keeps Fits fun draft => (∀ content ∈ draft.document, IsKept content) ∧
      ∀ instant ∈ draft.loadedAt, instant.IsProper := by
    simp only [Record.Keeps, record, List.forall_mem_cons]
    refine ⟨field_keeps fun _ _ _ _ _ kept => kept, field_keeps fun _ _ _ _ _ kept => kept,
      field_keeps fun _ _ _ _ _ kept => kept, field_keeps ?_, field_keeps ?_, nofun⟩
    · rintro _ value held fits taken ⟨-, loaded⟩
      refine ⟨?_, loaded⟩
      rintro _ ⟨⟩
      exact kept_of_readContent fits taken
    · rintro _ value held - taken ⟨kept, -⟩
      refine ⟨kept, ?_⟩
      rintro _ ⟨⟩
      exact Instant.isProper_of_read taken
  obtain ⟨draft, ⟨kept, loaded⟩, finished⟩ :=
    Record.read_keeps keeps ⟨nofun, nofun⟩ (fits_given fits) taken
  simp only [record, bind_ok_iff, required_ok_iff] at finished
  obtain ⟨id, -, version, -, algorithm, -, content, held, instant, held', same⟩ := finished
  cases same
  exact ⟨kept content held, loaded instant held'⟩

end PolicySnapshot

namespace PolicyInfo

theorem isPlain_toJson (info : PolicyInfo) : info.toJson.isPlain = true := rfl

theorem read_toJson {info : PolicyInfo} (proper : info.loadedAt.IsProper) :
    read info.toJson = .ok info := by
  have loaded := Instant.read_toJson proper .json
  simp [read, record, toJson, Record.read, Record.fillMembers, field, readString, loaded]
  rfl

theorem isProper_of_read {document : Json} {info : PolicyInfo}
    (taken : read document = .ok info) : info.loadedAt.IsProper := by
  have keeps : record.Keeps (fun _ => True)
      fun draft => ∀ instant ∈ draft.loadedAt, instant.IsProper := by
    simp only [Record.Keeps, record, List.forall_mem_cons]
    refine ⟨field_keeps fun _ _ _ _ _ kept => kept, field_keeps fun _ _ _ _ _ kept => kept,
      field_keeps ?_, nofun⟩
    rintro _ value held - taken _ _ ⟨⟩
    exact Instant.isProper_of_read taken
  obtain ⟨draft, loaded, finished⟩ := Record.read_keeps keeps nofun (fun _ _ => trivial) taken
  simp only [record, bind_ok_iff, required_ok_iff] at finished
  obtain ⟨id, -, version, -, instant, held, same⟩ := finished
  cases same
  exact loaded instant held

end PolicyInfo

namespace StatusReport

/-- A report that can be read: the service was started and its policy loaded at times of the
calendar. -/
structure IsProper (report : StatusReport) : Prop where
  startTime : report.startTime.IsProper
  policy : ∀ info ∈ report.policy, info.loadedAt.IsProper

theorem isPlain_toJson (report : StatusReport) : report.toJson.isPlain = true := by
  have policy := plain_option PolicyInfo.toJson PolicyInfo.isPlain_toJson report.policy
  rw [toJson, isPlain, arePlainMembers_iff]
  simp only [List.forall_mem_cons, isPlain_nat, policy, true_and]
  exact ⟨rfl, rfl, rfl, rfl, nofun⟩

theorem read_toJson {report : StatusReport} (proper : report.IsProper) :
    read report.toJson = .ok report := by
  have started := Instant.read_toJson proper.startTime .json
  have policy := readOption_option report.policy
    (fun info held => PolicyInfo.read_toJson (proper.policy info held)) fun _ => nofun
  simp [read, record, toJson, Record.read, Record.fillMembers, field, readString, started,
    readWord_nat, policy]
  rfl

theorem isProper_of_readInfo {value : Json} {policy : Option PolicyInfo}
    (taken : readOption PolicyInfo.read value = .ok policy) :
    ∀ info ∈ policy, info.loadedAt.IsProper := by
  unfold readOption at taken
  split at taken
  · cases taken
    exact nofun
  · obtain ⟨info, given, rfl⟩ := (map_ok_iff _ _ _).mp taken
    rintro _ ⟨⟩
    exact PolicyInfo.isProper_of_read given

theorem isProper_of_read {document : Json} {report : StatusReport}
    (taken : read document = .ok report) : report.IsProper := by
  have keeps : record.Keeps (fun _ => True) fun draft =>
      (∀ instant ∈ draft.startTime, instant.IsProper) ∧
        ∀ policy ∈ draft.policy, ∀ info ∈ policy, info.loadedAt.IsProper := by
    simp only [Record.Keeps, record, List.forall_mem_cons]
    refine ⟨field_keeps fun _ _ _ _ _ kept => kept, field_keeps fun _ _ _ _ _ kept => kept,
      field_keeps fun _ _ _ _ _ kept => kept, field_keeps ?_,
      field_keeps fun _ _ _ _ _ kept => kept, field_keeps fun _ _ _ _ _ kept => kept,
      field_keeps fun _ _ _ _ _ kept => kept, field_keeps fun _ _ _ _ _ kept => kept,
      field_keeps ?_, nofun⟩
    · rintro _ value held - taken ⟨-, loaded⟩
      refine ⟨?_, loaded⟩
      rintro _ ⟨⟩
      exact Instant.isProper_of_read taken
    · rintro _ value held - taken ⟨started, -⟩
      refine ⟨started, ?_⟩
      rintro _ ⟨⟩
      exact isProper_of_readInfo taken
  obtain ⟨draft, ⟨started, loaded⟩, finished⟩ :=
    Record.read_keeps keeps ⟨nofun, nofun⟩ (fun _ _ => trivial) taken
  simp only [record, bind_ok_iff, required_ok_iff] at finished
  obtain ⟨service, -, version, -, status, -, startTime, held, requests, -, completed, -, errors, -,
    rejections, -, same⟩ := finished
  cases same
  refine ⟨started startTime held, ?_⟩
  intro info mem
  exact loaded (some info) (Option.join_eq_some_iff.mp mem) info rfl

end StatusReport

end DecisionPoint
