import DecisionPoint.Json.Access
import DecisionPoint.Proofs.Http.Codec
import DecisionPoint.Proofs.Time.ReadBack

/-!
# Responses say what they were made of

What a response says can be read off its text, so two responses of one entity have the same text
only if they say the same.  The text of a fault tells its message.
-/

set_option autoImplicit false

namespace DecisionPoint

open Json

namespace ResponseMessage

structure Content where
  responseId : String
  requestId : String
  entityId : String
  completedAt : Instant
  decision : Decision
  code : StatusCode
  message : Option String
  resourceId : Option String
  obligations : List Obligation
deriving DecidableEq

def contentOf (entityId : String) (result : FinalResult) : Content where
  responseId := result.responseId
  requestId := result.requestId
  entityId := entityId
  completedAt := result.completedAt
  decision := result.outcome.decision
  code := result.outcome.status.code
  message := result.outcome.status.message
  resourceId := result.outcome.resourceId
  obligations := result.outcome.obligations

/-! ## Reading -/

def readStatus (status : Json) : Lookup (StatusCode × Option String) := do
  let urn ← status.textAt "code"
  match StatusCode.ofUrn? urn with
  | some code => pure (code, ← optional asText status "message")
  | none => .error "no status code"

def readContent (document : Json) : Lookup Content := do
  let responseId ← document.textAt "response_id"
  let requestId ← document.textAt "in_response_to"
  let entityId ← document.textAt "issuer"
  let completedAt ← asTyped (Instant.read .json) (← document.member "issue_instant")
  let decision ← asTyped Decision.read (← document.member "decision")
  let (code, message) ← readStatus (← document.member "status")
  let resourceId ← optional asText document "resource_id"
  let obligations ← optional (asTyped (readList .json Obligation.read)) document "obligations"
  pure
    { responseId, requestId, entityId, completedAt, decision, code, message, resourceId
      obligations := obligations.getD [] }

def readFault (document : Json) : Lookup (StatusCode × Option String) := do
  readStatus (← document.member "fault")

theorem readStatus_eq (code : StatusCode) (message : Option String) :
    readStatus (.object (("code", .string code.urn) :: member? "message" .string message)) =
      .ok (code, message) := by
  cases code <;> cases message <;> rfl

theorem read_resourceId (entityId : String) (result : FinalResult) :
    Json.optional asText (document entityId result) "resource_id" =
      .ok result.outcome.resourceId := by
  rw [document]
  cases result.outcome.resourceId with
  | none => cases result.outcome.obligations <;> rfl
  | some resourceId => rfl

theorem optional_eq_some {α : Type} {form : Json → Lookup α} {document value : Json}
    {name : String} {held : α} (given : document.get? name = some value)
    (read : form value = .ok held) : Json.optional form document name = .ok (some held) := by
  simp only [Json.optional, given, read]
  rfl

theorem read_obligations (entityId : String) (result : FinalResult) :
    ∃ held, Json.optional (asTyped (readList .json Obligation.read)) (document entityId result)
        "obligations" = .ok held ∧ held.getD [] = result.outcome.obligations := by
  have read := readList_map .json result.outcome.obligations
    fun obligation _ => Obligation.read_toJson obligation
  rw [document]
  cases given : result.outcome.obligations with
  | nil =>
      refine ⟨none, ?_, rfl⟩
      cases result.outcome.resourceId <;> rfl
  | cons first others =>
      rw [given] at read
      have typed : asTyped (readList .json Obligation.read)
          (.array ((first :: others).map Obligation.toJson)) = .ok (first :: others) := by
        rw [asTyped, read]
        rfl
      refine ⟨some (first :: others), optional_eq_some ?_ typed, rfl⟩
      cases result.outcome.resourceId <;> rfl

theorem readContent_document (entityId : String) {result : FinalResult}
    (proper : result.completedAt.IsProper) :
    readContent (document entityId result) = .ok (contentOf entityId result) := by
  have resource := read_resourceId entityId result
  obtain ⟨held, read, given⟩ := read_obligations entityId result
  have status := readStatus_eq result.outcome.status.code result.outcome.status.message
  have response : (document entityId result).textAt "response_id" = .ok result.responseId := rfl
  have request : (document entityId result).textAt "in_response_to" = .ok result.requestId := rfl
  have entity : (document entityId result).textAt "issuer" = .ok entityId := rfl
  have instant : asTyped (Instant.read .json) result.completedAt.toJson =
      .ok result.completedAt := by
    rw [asTyped, Instant.read_toJson proper]
    rfl
  have decision : asTyped Decision.read (.string result.outcome.decision.name) =
      .ok result.outcome.decision := by
    rw [asTyped, Decision.read_name]
    rfl
  have time : (document entityId result).member "issue_instant" =
    .ok result.completedAt.toJson := rfl
  have decided : (document entityId result).member "decision" =
    .ok (.string result.outcome.decision.name) := rfl
  have stated : (document entityId result).member "status" =
    .ok (.object (("code", .string result.outcome.status.code.urn) ::
      member? "message" .string result.outcome.status.message)) := rfl
  simp only [readContent, bind, Except.bind, response, request, entity, time, instant, decided,
    decision, stated, status, resource, read, given]
  rfl

/-! ## Texts -/

/-- A text of an object, no two members of which have one name. -/
def IsObject (text : String) (document : Json) : Prop :=
  Json.parse text = some document ∧
    ∃ members, document = .object members ∧ (members.map Prod.fst).Nodup

theorem encode_isObject (entityId : String) (result : FinalResult) :
    IsObject (encode entityId result) (document entityId result) := by
  refine ⟨Json.parse_text _ (isPlain_document entityId result), _, rfl, ?_⟩
  cases result.outcome.resourceId <;> cases result.outcome.obligations <;> simp [member?]

theorem encodeFault_isObject (fault : RequestFault) :
    IsObject (encodeFault fault) (faultDocument fault) :=
  ⟨Json.parse_text _ rfl, _, rfl, by simp⟩

theorem readFault_document (fault : RequestFault) :
    readFault (faultDocument fault) = .ok (.syntaxError, some fault.message) := rfl

theorem document_congr {entityId entityId' : String} {result other : FinalResult}
    (same : contentOf entityId result = contentOf entityId' other) :
    document entityId result = document entityId' other := by
  simp only [contentOf, Content.mk.injEq] at same
  obtain ⟨responseId, requestId, entity, completedAt, decision, code, message, resourceId,
    obligations⟩ := same
  simp only [document, responseId, requestId, entity, completedAt, decision, code, message,
    resourceId, obligations]

/-- From the text of a response all that it says is read back, so that two responses of one entity
have the same text exactly if they say the same; from the text of a fault its code and its message
are read back. -/
theorem responses_are_faithful (entityId : String) {result other : FinalResult}
    (proper : result.completedAt.IsProper) (proper' : other.completedAt.IsProper) :
    (∃ document, IsObject (encode entityId result) document ∧
      readContent document = .ok (contentOf entityId result)) ∧
    (encode entityId result = encode entityId other ↔
      contentOf entityId result = contentOf entityId other) ∧
    ∀ fault, ∃ document, IsObject (encodeFault fault) document ∧
      readFault document = .ok (.syntaxError, some fault.message) := by
  have read := readContent_document entityId proper
  have read' := readContent_document entityId proper'
  refine ⟨⟨_, encode_isObject entityId result, read⟩, ⟨?_, ?_⟩, ?_⟩
  · intro same
    have parsed := (encode_isObject entityId result).1
    rw [same, (encode_isObject entityId other).1] at parsed
    rw [← Option.some.inj parsed, read'] at read
    exact (Except.ok.inj read).symm
  · intro agree
    rw [encode, document_congr agree, encode]
  · intro fault
    exact ⟨_, encodeFault_isObject fault, readFault_document fault⟩

end ResponseMessage

namespace SampleResponses

/-- A permission of the last second of 2016, which was a second of leap time. -/
def inLeapTime : FinalResult where
  requestId := "r-1"
  requesterId := none
  responseId := "s-1"
  outcome := .new .permit [⟨"log", .permit, .empty⟩] none
  policy := none
  appliedObligations := []
  stage := .resultReady
  failure := none
  completedAt := ⟨1483228799, 1500000000⟩

def inNewYear : FinalResult :=
  { inLeapTime with completedAt := ⟨1483228800, 500000000⟩ }

end SampleResponses

open SampleResponses in
theorem leap_time_is_told :
    inLeapTime.completedAt.IsProper ∧ inNewYear.completedAt.IsProper ∧
      ResponseMessage.encode "pdp" inLeapTime ≠ ResponseMessage.encode "pdp" inNewYear := by
  have proper : inLeapTime.completedAt.IsProper := ⟨by decide, by decide⟩
  have proper' : inNewYear.completedAt.IsProper := ⟨by decide, by decide⟩
  refine ⟨proper, proper', ?_⟩
  rw [ne_eq, (ResponseMessage.responses_are_faithful "pdp" proper proper').2.1]
  decide

end DecisionPoint
