import DecisionPoint.Policy.Administration
import DecisionPoint.Proofs.Json.Fields

/-!
# Policies as they are handed out

Which documents describe a policy, and which bodies hold policies: the fields that a policy needs,
the defaults of those that it may leave out, and nothing that the reader decides by its order.
-/

set_option autoImplicit false

namespace DecisionPoint

open Json

/-- A value of some depth, whose members are then sorted by name. -/
def IsContent (level : Nat) (value content : Json) : Prop :=
  value.hasValueAt level = true ∧ value.canonical = content

theorem readContent_iff {level : Nat} {value content : Json} :
    readContent level value = .ok content ↔ IsContent level value content := by
  unfold readContent IsContent
  split <;> simp [*]

namespace PolicyDocument

def fieldNames : List String := ["policy_set_id", "version", "combining_algorithm", "document"]

/-- A document, some arrays or objects deep, that describes a policy. -/
def Described (level : Nat) (value : Json) (policy : PolicyDocument) : Prop :=
  ∃ members, Lists fieldNames 2 value members ∧
    Holds IsText (valuesOf "policy_set_id" members) (some policy.policySetId) ∧
    Holds IsText (valuesOf "version" members) (some policy.version) ∧
    Gives IsText (valuesOf "combining_algorithm" members) defaultCombiningAlgorithm
      policy.combiningAlgorithm ∧
    Gives (IsContent (level + 1)) (valuesOf "document" members) .null policy.document

section Draft

variable {level : Nat} {members : List (String × Json)} {draft : Draft}

theorem serves_policySetId : (record level).Serves "policy_set_id" IsText Draft.policySetId := by
  simp [Record.Serves, record, readString_iff]

theorem serves_version : (record level).Serves "version" IsText Draft.version := by
  simp [Record.Serves, record, readString_iff]

theorem serves_combiningAlgorithm :
    (record level).Serves "combining_algorithm" IsText Draft.combiningAlgorithm := by
  simp [Record.Serves, record, readString_iff]

theorem serves_document :
    (record level).Serves "document" (IsContent (level + 1)) Draft.document := by
  simp [Record.Serves, record, readContent_iff]

theorem reads_draft
    (filled : (record level).fillMembers members [] (record level).blank = .ok draft) :
    Holds IsText (valuesOf "policy_set_id" members) draft.policySetId ∧
      Holds IsText (valuesOf "version" members) draft.version ∧
      Holds IsText (valuesOf "combining_algorithm" members) draft.combiningAlgorithm ∧
      Holds (IsContent (level + 1)) (valuesOf "document" members) draft.document :=
  ⟨serves_policySetId.holds (by simp [Record.names, record, field]) rfl filled,
    serves_version.holds (by simp [Record.names, record, field]) rfl filled,
    serves_combiningAlgorithm.holds (by simp [Record.names, record, field]) rfl filled,
    serves_document.holds (by simp [Record.names, record, field]) rfl filled⟩

theorem exists_draft {id version algorithm : Option String} {document : Option Json}
    (holdsId : Holds IsText (valuesOf "policy_set_id" members) id)
    (holdsVersion : Holds IsText (valuesOf "version" members) version)
    (holdsAlgorithm : Holds IsText (valuesOf "combining_algorithm" members) algorithm)
    (holdsDocument : Holds (IsContent (level + 1)) (valuesOf "document" members) document) :
    (record level).fillMembers members [] (record level).blank =
      .ok ⟨id, version, algorithm, document⟩ := by
  have fits : ∀ field ∈ (record level).fields, Record.Fits field members := by
    simp only [record, List.forall_mem_cons]
    exact ⟨Record.field_fits (fun _ _ => readString_iff) holdsId,
      Record.field_fits (fun _ _ => readString_iff) holdsVersion,
      Record.field_fits (fun _ _ => readString_iff) holdsAlgorithm,
      Record.field_fits (fun _ _ => readContent_iff) holdsDocument, List.forall_mem_nil _⟩
  refine Record.fillMembers_of_fits (fun strict => by cases strict) fits ?_
  intro draft filled
  obtain ⟨holdsId', holdsVersion', holdsAlgorithm', holdsDocument'⟩ := reads_draft filled
  rw [holdsId.unique (fun _ _ => readString_iff) holdsId',
    holdsVersion.unique (fun _ _ => readString_iff) holdsVersion',
    holdsAlgorithm.unique (fun _ _ => readString_iff) holdsAlgorithm',
    holdsDocument.unique (fun _ _ => readContent_iff) holdsDocument']

end Draft

theorem read_iff {level : Nat} {value : Json} {policy : PolicyDocument} :
    read level value = .ok policy ↔ Described level value policy := by
  have distinct : (record level).names.Nodup := by simp [Record.names, record, field]
  rw [read, Record.read_iff distinct 2 (by simp [record]) (by simp [record, field])
    (by simp [record, field])]
  constructor
  · rintro ⟨members, draft, lists, filled, finished⟩
    obtain ⟨holdsId, holdsVersion, holdsAlgorithm, holdsDocument⟩ := reads_draft filled
    obtain ⟨id, version, algorithm, document⟩ := draft
    cases id with
    | none => cases finished
    | some id =>
        cases version with
        | none => cases finished
        | some version =>
            cases finished
            exact ⟨members, lists, holdsId, holdsVersion, ⟨algorithm, holdsAlgorithm, rfl⟩,
              document, holdsDocument, rfl⟩
  · rintro ⟨members, lists, holdsId, holdsVersion, ⟨algorithm, holdsAlgorithm, named⟩,
      document, holdsDocument, same⟩
    refine ⟨members, _, lists,
      exists_draft holdsId holdsVersion holdsAlgorithm holdsDocument, ?_⟩
    obtain ⟨id, version, algorithm', document'⟩ := policy
    cases named
    cases same
    rfl

end PolicyDocument

namespace PolicyQueryResponse

/-- A document that holds policies, the first of which counts. -/
def Described (value : Json) (policies : List PolicyDocument) : Prop :=
  ∃ members, Lists ["policy_sets"] 0 value members ∧
    Gives (IsList (PolicyDocument.Described 2)) (valuesOf "policy_sets" members) [] policies

theorem serves_policySets :
    record.Serves "policy_sets" (IsList (PolicyDocument.Described 2))
      fun response => some response.policySets := by
  simp only [Record.Serves, record, List.forall_mem_cons]
  exact ⟨field_serves (fun _ _ => readList_iff fun _ _ => PolicyDocument.read_iff)
    fun _ _ => rfl, List.forall_mem_nil _⟩

theorem fillMembers_iff {members : List (String × Json)} {policies : List PolicyDocument} :
    record.fillMembers members [] record.blank = .ok ⟨policies⟩ ↔
      Gives (IsList (PolicyDocument.Described 2)) (valuesOf "policy_sets" members) [] policies := by
  have takes : ∀ value held, readList .json (PolicyDocument.read 2) value = .ok held ↔
      IsList (PolicyDocument.Described 2) value held :=
    fun _ _ => readList_iff fun _ _ => PolicyDocument.read_iff
  have gives {response : PolicyQueryResponse}
      (filled : record.fillMembers members [] record.blank = .ok response) :
      Gives (IsList (PolicyDocument.Described 2)) (valuesOf "policy_sets" members) []
        response.policySets := by
    have known : "policy_sets" ∈ record.names := by simp [Record.names, record, field]
    have reads := (Record.fillMembers_reads serves_policySets known filled).2
    generalize given : valuesOf "policy_sets" members = values at reads
    obtain ⟨policies⟩ := response
    cases reads with
    | kept => exact ⟨none, .absent, rfl⟩
    | given taken => exact ⟨_, .given taken, rfl⟩
  constructor
  · exact gives
  · rintro ⟨held, holds, rfl⟩
    have fits : ∀ field ∈ record.fields, Record.Fits field members := by
      simp only [record, List.forall_mem_cons]
      exact ⟨Record.field_fits takes holds, List.forall_mem_nil _⟩
    refine Record.fillMembers_of_fits (fun strict => by cases strict) fits ?_
    rintro ⟨policies⟩ filled
    obtain ⟨held', holds', same⟩ := gives filled
    rw [holds.unique takes holds', same]

theorem read_iff {value : Json} {policies : List PolicyDocument} :
    read value = .ok ⟨policies⟩ ↔ Described value policies := by
  have distinct : record.names.Nodup := by simp [Record.names, record, field]
  rw [read, Record.read_iff distinct 0 (by simp [record]) (by simp [record, field])
    (by simp [record, field])]
  constructor
  · rintro ⟨members, draft, lists, filled, finished⟩
    cases finished
    exact ⟨members, lists, fillMembers_iff.mp filled⟩
  · rintro ⟨members, lists, gives⟩
    exact ⟨members, _, lists, fillMembers_iff.mpr gives, rfl⟩

end PolicyQueryResponse

end DecisionPoint
