import DecisionPoint.Outcome
import DecisionPoint.Request.Basic
import DecisionPoint.Proofs.Json.Records
import DecisionPoint.Proofs.Keyed

/-!
# Requests and outcomes are read back

The documents of requests are plain, and so are those of the sets of attributes that they hold.
Reading a set gives the same attributes in the same order: no two of them have one identifier, so
none takes the place of another.  So it is with the assignments of an obligation and with the
outcome that holds the obligations; decisions and codes are known by their names.
-/

set_option autoImplicit false

namespace DecisionPoint

open Json

namespace Attribute

theorem isPlain_toJson (entry : Attribute) : entry.toJson.isPlain = true := by
  rw [toJson, isPlain, arePlainMembers_iff]
  have issuer := plain_member? "issuer" Json.string (fun _ => rfl) entry.issuer
  simp only [List.forall_mem_append, List.forall_mem_cons]
  refine ⟨⟨⟨rfl, rfl, nofun⟩, issuer⟩, isPlain_strings entry.values, nofun⟩

theorem read_toJson (entry : Attribute) : read entry.toJson = .ok entry := by
  obtain ⟨id, dataType, issuer, values⟩ := entry
  have values := readList_strings .json values
  cases issuer with
  | none =>
      simp [read, record, toJson, member?, Record.read, Record.fillMembers, field, values]
      rfl
  | some issuer =>
      simp [read, record, toJson, member?, Record.read, Record.fillMembers, field, values]
      rfl

end Attribute

namespace AttributeSet

theorem isPlain_toJson (set : AttributeSet) : (toJson set).isPlain = true := by
  simp [toJson, isPlain, arePlainElements_iff, Attribute.isPlain_toJson]

theorem read_toJson (set : AttributeSet) : read (toJson set) = .ok set := by
  rw [read, toJson, readList_map .json set.items fun entry _ => Attribute.read_toJson entry]
  exact congrArg Except.ok (Keyed.ofList_items set)

end AttributeSet

namespace Request

theorem isPlain_toJson (request : Request) : request.toJson.isPlain = true := by
  rw [toJson, isPlain, arePlainMembers_iff]
  have issuer := plain_member? "issuer" Json.string (fun _ => rfl) request.issuer
  have resources : (Json.array (request.resources.map AttributeSet.toJson)).isPlain = true := by
    simp [isPlain, arePlainElements_iff, AttributeSet.isPlain_toJson]
  simp only [List.forall_mem_append, List.forall_mem_cons, AttributeSet.isPlain_toJson]
  exact ⟨⟨⟨rfl, nofun⟩, issuer⟩, trivial, resources, trivial, trivial, nofun⟩

end Request

/-! ## Outcomes -/

theorem Decision.read_name (decision : Decision) : read (.string decision.name) = .ok decision := by
  cases decision <;> rfl

theorem Effect.read_name (effect : Effect) : read (.string effect.name) = .ok effect := by
  cases effect <;> rfl

def StatusCode.ofUrn? (urn : String) : Option StatusCode :=
  [ok, processingError, syntaxError].find? fun code => code.urn = urn

namespace Obligation

theorem isPlain_toJson (obligation : Obligation) : obligation.toJson.isPlain = true := by
  rw [toJson, isPlain, arePlainMembers_iff]
  intro member mem
  rcases List.mem_append.mp mem with field | assignments
  · simp only [List.mem_cons, List.not_mem_nil, or_false] at field
    rcases field with rfl | rfl <;> rfl
  · split at assignments
    · cases assignments
    · cases List.mem_singleton.mp assignments
      rw [isPlain, arePlainMembers_iff]
      intro assignment own
      obtain ⟨item, -, rfl⟩ := List.mem_map.mp own
      rfl

theorem read_assignments (assignments : Assignments) :
    readMembers .json (readString .json)
        (fun (placed : Assignments) name value => placed.insert (name, value)) Keyed.empty
        (.object (assignments.items.map fun (name, value) => (name, .string value))) =
      .ok assignments := by
  have text (value : String) : readString .json (.string value) = .ok value := rfl
  rw [readMembers_map .json text]
  exact congrArg Except.ok assignments.ofList_items

theorem read_toJson (obligation : Obligation) : read obligation.toJson = .ok obligation := by
  obtain ⟨id, fulfillOn, assignments⟩ := obligation
  by_cases nothing : assignments.isEmpty = true
  · have empty : Keyed.empty = assignments := Keyed.ext (List.isEmpty_iff.mp nothing).symm
    simp [read, record, toJson, Record.read, Record.fillMembers, field, nothing, Effect.read_name]
    exact congrArg (fun held => Except.ok (Obligation.mk id fulfillOn held)) empty
  · simp [read, record, toJson, Record.read, Record.fillMembers, field, nothing, Effect.read_name,
      read_assignments]
    rfl

end Obligation

theorem StatusCode.read_name (code : StatusCode) : read (.string code.name) = .ok code := by
  cases code <;> rfl

namespace Status

theorem isPlain_toJson (status : Status) : status.toJson.isPlain = true := by
  have message := plain_member? "message" Json.string (fun _ => rfl) status.message
  rw [toJson, isPlain, arePlainMembers_iff, List.forall_mem_cons]
  exact ⟨rfl, message⟩

theorem read_toJson (status : Status) : read status.toJson = .ok status := by
  obtain ⟨code, message⟩ := status
  cases message with
  | none =>
      simp [read, record, toJson, member?, Record.read, Record.fillMembers, field,
        StatusCode.read_name]
      rfl
  | some message =>
      simp [read, record, toJson, member?, Record.read, Record.fillMembers, field,
        StatusCode.read_name]
      rfl

end Status

namespace Outcome

theorem isPlain_toJson (outcome : Outcome) : outcome.toJson.isPlain = true := by
  have resource := plain_member? "resource_id" Json.string (fun _ => rfl) outcome.resourceId
  have obligations : (Json.array (outcome.obligations.map Obligation.toJson)).isPlain = true := by
    simp [isPlain, arePlainElements_iff, Obligation.isPlain_toJson]
  rw [toJson, isPlain, arePlainMembers_iff, List.forall_mem_append]
  simp only [List.forall_mem_cons]
  exact ⟨⟨rfl, Status.isPlain_toJson outcome.status, obligations, nofun⟩, resource⟩

theorem read_toJson (outcome : Outcome) : read outcome.toJson = .ok outcome := by
  obtain ⟨decision, status, obligations, resourceId⟩ := outcome
  have obligations := readList_map .json obligations
    fun obligation _ => Obligation.read_toJson obligation
  cases resourceId with
  | none =>
      simp [read, record, toJson, member?, Record.read, Record.fillMembers, field,
        Decision.read_name, Status.read_toJson, obligations]
      rfl
  | some resourceId =>
      simp [read, record, toJson, member?, Record.read, Record.fillMembers, field,
        Decision.read_name, Status.read_toJson, obligations]
      rfl

end Outcome

end DecisionPoint
