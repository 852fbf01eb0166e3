import DecisionPoint.Http.Codec
import DecisionPoint.Json.Access
import DecisionPoint.Policy.Source
import DecisionPoint.Rehearsal.Collaborators

/-!
# Rehearsals in documents

The collaborators of a rehearsal as documents describe them: attributes, policies, failures,
conditions, information points, rules, handlers and policy sources.
-/

set_option autoImplicit false

namespace DecisionPoint.Rehearsal

open Json

/-- The attribute that a document describes: one in full, or one that is made from an identifier
and a value and then changed. -/
def attributeOf (document : Json) : Lookup Attribute := do
  match document.get? "new" with
  | some (.array [id, value]) =>
    let single := Attribute.single (← id.asText) (← value.asText)
    let dataType ← optional asText document "with_data_type"
    let more ← (← document.listAt "with_values").mapM asText
    pure
      { single with
        dataType := dataType.getD single.dataType
        issuer := ← optional asText document "with_issuer"
        values := single.values ++ more }
  | _ => asTyped Attribute.read document

def categoryOf : String → Lookup Category
  | "subject" => .ok .subject
  | "resource" => .ok .resource
  | "action" => .ok .action
  | "environment" => .ok .environment
  | other => .error ("unknown category " ++ other)

def loadTime : Instant := (Instant.parse "2020-01-01T00:00:00Z").getD .epoch

def loadTimeOf (document : Json) : Lookup Instant := do
  pure ((← optional (asTyped (Instant.read .json)) document "loaded_at").getD loadTime)

def policyOf (document : Json) : Lookup PolicySnapshot := do
  let policySetId ← document.textAt "policy_set_id"
  let blank := PolicySnapshot.new policySetId (← document.textAt "version") (← loadTimeOf document)
  let algorithm ← optional asText document "combining_algorithm"
  pure
    { blank with
      combiningAlgorithm := algorithm.getD blank.combiningAlgorithm
      document := ((document.get? "document").getD blank.document).canonical }

/-- The span that a document describes; nanoseconds may make up more than a second. -/
def spanOf (document : Json) : Lookup Span := do
  pure (.ofParts (← document.natAt "secs") (← document.natAt "nanos"))

def fetchFaultOf (document : Json) : Lookup FetchFault := do
  match ← document.textAt "type" with
  | "Endpoint" => pure (.endpoint (← document.textAt "endpoint") (← document.textAt "message"))
  | "AllEndpointsFailed" =>
    pure (.allEndpointsFailed (← (← document.listAt "failures").mapM asText))
  | "NoPolicy" => pure (.noPolicy (← document.textAt "message"))
  | "Parse" => pure (.parse (← document.textAt "message"))
  | "Timeout" => pure (.timeout (← spanOf (← document.member "after")))
  | "Unavailable" => pure (.unavailable (← document.textAt "message"))
  | other => .error ("unknown failure " ++ other)

def admissionFaultOf : String → Lookup AdmissionFault
  | "Busy" => .ok .busy
  | "Closed" => .ok .closed
  | other => .error ("unknown fault " ++ other)

def requestFaultOf (name reason : String) : Lookup RequestFault :=
  match name with
  | "Empty" => .ok .empty
  | "Malformed" => .ok (.malformed reason)
  | "Invalid" => .ok (.invalid reason)
  | other => .error ("unknown fault " ++ other)

def conditionOf (document : Json) : Lookup (Option Condition) := do
  match document.get? "if" with
  | none => pure none
  | some (.array [category, id, .null]) =>
    pure (some ⟨← categoryOf (← category.asText), ← id.asText, none⟩)
  | some (.array [category, id, value]) =>
    pure (some ⟨← categoryOf (← category.asText), ← id.asText, some (← value.asText)⟩)
  | some _ => .error "a condition has three parts"

/-- The act that a document describes.  A mere function does not sleep. -/
def actOf (isFunction : Bool) (document : Json) : Lookup Act := do
  match document.get? "sleep_ms", document.get? "fail", document.get? "add" with
  | some millis, _, _ => do
    let millis ← millis.asNat
    pure (if isFunction then .nothing else .sleep millis)
  | none, some reason, _ => pure (.fail (← reason.asText))
  | none, none, some category =>
    pure (.add (← categoryOf (← category.asText)) (← attributeOf (← document.member "attribute"))
      (document.flagAt "ignore"))
  | none, none, none => pure (if document.flagAt "panic" then .panic else .nothing)

def pointOf (document : Json) : Lookup Point := do
  let isFunction := document.flagAt "fn"
  let actions ← (← document.listAt "actions").mapM fun action => do
    pure (Action.mk (← conditionOf action) (← actOf isFunction action))
  let outcome (name : String) : Lookup (Except InformationFault Unit) := do
    match isFunction, ← optional asText document name with
    | false, some reason => pure (.error (.failed reason))
    | _, _ => pure (.ok ())
  pure ⟨← document.textAt "id", isFunction, ← outcome "start_fail", ← outcome "stop_fail",
    .ofActions actions⟩

def ruleAnswerOf (document : Json) : Lookup RuleAnswer := do
  match document.get? "outcome", document.get? "error" with
  | some outcome, _ => pure (.outcome (← asTyped Outcome.read outcome))
  | none, some reason => pure (.error (← reason.asText))
  | none, none =>
    if document.flagAt "document" then pure .document
    else if document.flagAt "panic" then pure .panic
    else .error "a rule without an answer"

def ruleOf (document : Json) : Lookup Rule := do
  pure ⟨← conditionOf document, ← optional asText document "version", ← ruleAnswerOf document⟩

def handlerOf (document : Json) : Lookup Handler := do
  let id ← document.textAt "id"
  let failure ← optional (fun fail => do
    pure (ObligationFault.mk ((← optional asText fail "id").getD id) (← fail.textAt "message")))
    document "fail"
  let answer : HandlerAnswer :=
    if document.flagAt "panic" then .panicked
    else match failure with
      | some fault => .failed fault
      | none => .fulfilled
  let isPlain := document.flagAt "plain"
  let precedence ← optional asInt document "precedence"
  let restriction ← optional (asTyped Effect.read) document "fulfill_on"
  pure (.scripted (← document.textAt "name") id
    (if isPlain then 0 else .ofInt (precedence.getD 0)) (if isPlain then none else restriction)
    answer)

def fetchedOf (document : Json) : Lookup Fetched := do
  match document.get? "policy" with
  | some policy => pure (.ok (← policyOf policy))
  | none => pure (.error (← fetchFaultOf (← document.member "failure")))

def sourceOf (document : Json) : Lookup ScriptedSource := do
  let start := match ← optional policyOf document "policy" with
    | some policy => ScriptedSource.always (.ok policy)
    | none => .unavailable
  let source := match ← optional fetchFaultOf document "failure" with
    | some fault => start.withFallback (.error fault)
    | none => start
  let queued ← (← document.listAt "queue").mapM fetchedOf
  pure (queued.foldl .push { source with delay := ← optional asNat document "delay_ms" })

end DecisionPoint.Rehearsal
