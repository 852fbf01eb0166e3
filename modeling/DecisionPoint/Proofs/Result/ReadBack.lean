import DecisionPoint.Audit
import DecisionPoint.Proofs.Request.ReadBack
import DecisionPoint.Proofs.Policy.ReadBack

/-!
# Results are read back

From the text of a result the result is read, whatever stage it reached and however it failed; so it
is with audit records, reports, and policies whose content holds no double.  What is read of any
text is read back once it is written again.
-/

set_option autoImplicit false

namespace DecisionPoint

open Json

theorem Stage.read_name (stage : Stage) : read (.string stage.name) = .ok stage := by
  cases stage <;> rfl

namespace StageFailure

theorem isPlain_toJson (failure : StageFailure) : failure.toJson.isPlain = true := by
  cases failure <;> rfl

theorem read_toJson (failure : StageFailure) : read failure.toJson = .ok failure := by
  cases failure <;> rfl

theorem toJson_ne_null (failure : StageFailure) : failure.toJson ≠ .null := by
  cases failure <;> nofun

end StageFailure

namespace FinalResult

theorem isPlain_toJson (result : FinalResult) : result.toJson.isPlain = true := by
  have text (value : Option String) : (option Json.string value).isPlain = true :=
    plain_option _ (fun _ => rfl) value
  have policy := plain_option PolicyRef.toJson PolicyRef.isPlain_toJson result.policy
  have failure := plain_option StageFailure.toJson StageFailure.isPlain_toJson result.failure
  rw [toJson, isPlain, arePlainMembers_iff]
  simp only [List.forall_mem_cons, text, policy, failure, isPlain_strings, Outcome.isPlain_toJson,
    true_and]
  exact ⟨rfl, rfl, rfl, rfl, List.forall_mem_nil _⟩

theorem read_toJson {result : FinalResult} (proper : result.completedAt.IsProper) :
    read result.toJson = .ok result := by
  have policy := readOption_option result.policy
    (fun reference _ => PolicyRef.read_toJson reference) fun _ => nofun
  have failure := readOption_option result.failure
    (fun failure _ => StageFailure.read_toJson failure) StageFailure.toJson_ne_null
  simp [read, record, toJson, Record.read, Record.fillMembers, field, readString,
    readOption_string, readList_strings, policy, failure, Outcome.read_toJson, Stage.read_name,
    Instant.read_toJson proper]
  rfl

theorem isProper_of_read {document : Json} {result : FinalResult}
    (taken : read document = .ok result) : result.completedAt.IsProper := by
  have keeps : record.Keeps (fun _ => True)
      fun draft => ∀ instant ∈ draft.completedAt, instant.IsProper := by
    simp only [Record.Keeps, record, List.forall_mem_cons]
    refine ⟨field_keeps fun _ _ _ _ _ kept => kept, field_keeps fun _ _ _ _ _ kept => kept,
      field_keeps fun _ _ _ _ _ kept => kept, field_keeps fun _ _ _ _ _ kept => kept,
      field_keeps fun _ _ _ _ _ kept => kept, field_keeps fun _ _ _ _ _ kept => kept,
      field_keeps fun _ _ _ _ _ kept => kept, field_keeps fun _ _ _ _ _ kept => kept,
      field_keeps ?_, List.forall_mem_nil _⟩
    rintro _ value held - taken _ _ ⟨⟩
    exact Instant.isProper_of_read taken
  have blank : ∀ instant ∈ record.blank.completedAt, instant.IsProper :=
    fun _ held => absurd held (Option.not_mem_none _)
  obtain ⟨draft, completed, finished⟩ := Record.read_keeps keeps blank (fun _ _ => trivial) taken
  simp only [record, bind_ok_iff, required_ok_iff] at finished
  obtain ⟨request, -, response, -, outcome, -, applied, -, stage, -, instant, held, same⟩ :=
    finished
  cases same
  exact completed instant held

end FinalResult

namespace AuditRecord

theorem isPlain_toJson (record : AuditRecord) : record.toJson.isPlain = true := by
  have text (value : Option String) : (option Json.string value).isPlain = true :=
    plain_option _ (fun _ => rfl) value
  have millis : (int record.timestampMillis.toInt).isPlain = true := by
    have low : -Nat.pow 2 63 ≤ record.timestampMillis.toInt := record.timestampMillis.le_toInt
    have high : record.timestampMillis.toInt < Nat.pow 2 63 := record.timestampMillis.toInt_lt
    have words : Nat.pow 2 63 ≤ maxWord := by decide
    simp only [int, isPlain, Number.isWord, Bool.and_eq_true, decide_eq_true_eq]
    omega
  rw [toJson, isPlain, arePlainMembers_iff]
  simp only [List.forall_mem_cons, text, millis, true_and]
  exact ⟨rfl, rfl, rfl, List.forall_mem_nil _⟩

theorem read_toJson (record : AuditRecord) : read record.toJson = .ok record := by
  have millis : readSigned .json (int record.timestampMillis.toInt) =
      .ok record.timestampMillis := by
    have fits : Int64.minValue.toInt ≤ record.timestampMillis.toInt ∧
        record.timestampMillis.toInt ≤ Int64.maxValue.toInt :=
      ⟨record.timestampMillis.minValue_le_toInt, record.timestampMillis.toInt_le⟩
    rw [int, readSigned, if_pos fits, Int64.ofInt_toInt]
  simp [read, AuditRecord.record, toJson, Record.read, Record.fillMembers, field, readString,
    readOption_string, millis, Decision.read_name]
  rfl

end AuditRecord

/-! ## Texts -/

/-- Values of a kind are read back from their texts: the proper ones of which a text shows all, and
so, once more, whatever a text gives. -/
structure ReadsBack {α : Type} (read : Reader α) (write : α → Json) (IsProper IsShown : α → Prop) :
    Prop where
  value : ∀ value, IsProper value → IsShown value → decode read (write value).text = .ok value
  proper : ∀ text value, decode read text = .ok value → IsProper value
  again : ∀ text value, decode read text = .ok value → IsShown value →
    decode read (write value).text = .ok value

theorem ReadsBack.of_read {α : Type} {read : Reader α} {write : α → Json}
    {IsProper IsShown : α → Prop}
    (plain : ∀ value, IsProper value → IsShown value → (write value).isPlain = true)
    (undone : ∀ value, IsProper value → read (write value) = .ok value)
    (proper : ∀ document value, Fits document → read document = .ok value → IsProper value) :
    ReadsBack read write IsProper IsShown := by
  have back (value : α) (isProper : IsProper value) (shown : IsShown value) :
      decode read (write value).text = .ok value :=
    decode_text (plain value isProper shown) (undone value isProper)
  have given (text : String) (value : α) (decoded : decode read text = .ok value) :
      IsProper value := by
    obtain ⟨document, parsed, taken⟩ := decode_ok_iff.mp decoded
    exact proper document value (fits_of_parse parsed) taken
  exact ⟨back, given, fun text value decoded => back value (given text value decoded)⟩

/-- Results, audit records and reports are read back from their texts, and so are snapshots and
documents of policies whose content holds no double; their content may be nested up to a depth of
126.  The times are those of the calendar.  What any text gives is of this kind, so that writing it
and reading it again changes nothing. -/
theorem results_are_read_back :
    ReadsBack FinalResult.read FinalResult.toJson (fun result => result.completedAt.IsProper)
      (fun _ => True) ∧
    ReadsBack AuditRecord.read AuditRecord.toJson (fun _ => True) (fun _ => True) ∧
    ReadsBack StatusReport.read StatusReport.toJson StatusReport.IsProper (fun _ => True) ∧
    ReadsBack PolicySnapshot.read PolicySnapshot.toJson PolicySnapshot.IsProper
      (fun snapshot => IsWhole snapshot.document) ∧
    ReadsBack (PolicyDocument.read 0) PolicyDocument.toJson (fun policy => IsKept policy.document)
      (fun policy => IsWhole policy.document) := by
  refine ⟨?_, ?_, ?_, ?_, ?_⟩
  · exact .of_read (fun result _ _ => result.isPlain_toJson)
      (fun _ proper => FinalResult.read_toJson proper)
      fun _ _ _ taken => FinalResult.isProper_of_read taken
  · exact .of_read (fun record _ _ => record.isPlain_toJson)
      (fun record _ => record.read_toJson) fun _ _ _ _ => trivial
  · exact .of_read (fun report _ _ => report.isPlain_toJson)
      (fun _ proper => StatusReport.read_toJson proper)
      fun _ _ _ taken => StatusReport.isProper_of_read taken
  · exact .of_read (fun _ proper whole => PolicySnapshot.isPlain_toJson proper.kept whole)
      (fun _ proper => PolicySnapshot.read_toJson proper)
      fun _ _ fits taken => PolicySnapshot.isProper_of_read fits taken
  · exact .of_read (fun _ kept whole => PolicyDocument.isPlain_toJson kept whole)
      (fun _ kept => PolicyDocument.read_toJson kept)
      fun _ _ fits taken => PolicyDocument.kept_of_read fits taken

namespace SampleTexts

/-- A snapshot whose members, and those of its content, stand in no order. -/
def unordered : Json :=
  .object
    [("version", .string "1"), ("policy_set_id", .string "alpha"),
      ("loaded_at", .string "2020-01-01 01:00:00+01:00"),
      ("document",
        .object
          [("rules", .array [int (-1)]), ("default", .object []),
            ("rules", .array [nat 18446744073709551615])]),
      ("combining_algorithm", .string "deny-overrides")]

/-- What is read of it: of members with one name the last is kept. -/
def ordered : PolicySnapshot :=
  ⟨"alpha", "1", "deny-overrides",
    .object [("default", .object []), ("rules", .array [nat 18446744073709551615])],
    ⟨1577836800, 0⟩⟩

def failed : FinalResult where
  requestId := "r-1"
  requesterId := none
  responseId := "s-1"
  outcome := ⟨.indeterminate, ⟨.processingError, some "mail is down"⟩,
    [⟨"mail", .deny, .ofList [("to", "b"), ("from", "a")]⟩], none⟩
  policy := some ⟨"alpha", "1"⟩
  appliedObligations := ["log"]
  stage := .obligationsApplied
  failure := some (.obligation "mail" "mail is down")
  completedAt := ⟨253402300799, 999999999⟩

end SampleTexts

open SampleTexts in
theorem unordered_text_settles :
    failed.completedAt.IsProper ∧
      decode FinalResult.read failed.toJson.text = .ok failed ∧
      decode PolicySnapshot.read unordered.text = .ok ordered ∧
      decode PolicySnapshot.read ordered.toJson.text = .ok ordered := by
  obtain ⟨results, -, -, snapshots, -⟩ := results_are_read_back
  have proper : failed.completedAt.IsProper := ⟨by decide, by decide⟩
  have loaded : Instant.read .json (.string "2020-01-01 01:00:00+01:00") =
      .ok ⟨1577836800, 0⟩ := by
    decide +kernel
  have content : readContent 1 (.object
      [("rules", .array [int (-1)]), ("default", .object []),
        ("rules", .array [nat 18446744073709551615])]) = .ok ordered.document := rfl
  have taken : PolicySnapshot.read unordered = .ok ordered := by
    simp [PolicySnapshot.read, PolicySnapshot.record, unordered, Record.read, Record.fillMembers,
      field, readString, content, loaded]
    rfl
  have decoded : decode PolicySnapshot.read unordered.text = .ok ordered :=
    decode_text rfl taken
  have whole : IsWhole ordered.document := by
    rintro number mem
    cases List.mem_singleton.mp mem
    rfl
  exact ⟨proper, results.value failed proper trivial, decoded,
    snapshots.again unordered.text ordered decoded whole⟩

end DecisionPoint
