import DecisionPoint.Json.Reader
import DecisionPoint.Keyed

/-!
# Outcomes

The engine answers a request with a decision, a status and obligations.  An obligation is tied to
one effect and counts only when the decision has that effect.
-/

set_option autoImplicit false

namespace DecisionPoint

inductive Decision where
  | permit
  | deny
  | notApplicable
  | indeterminate
deriving DecidableEq, Repr, Inhabited

def Decision.name : Decision → String
  | permit => "Permit"
  | deny => "Deny"
  | notApplicable => "NotApplicable"
  | indeterminate => "Indeterminate"

def Decision.choices : List (String × Decision) :=
  [permit, deny, notApplicable, indeterminate].map fun d => (d.name, d)

def Decision.read : Json.Reader Decision :=
  Json.readChoice .json choices

/-- The effect of a decision that an obligation is tied to. -/
inductive Effect where
  | permit
  | deny
deriving DecidableEq, Repr, Inhabited

namespace Effect

def matches? : Effect → Decision → Bool
  | permit, .permit => true
  | deny, .deny => true
  | _, _ => false

def name : Effect → String
  | permit => "Permit"
  | deny => "Deny"

def choices : List (String × Effect) :=
  [permit, deny].map fun e => (e.name, e)

def read : Json.Reader Effect :=
  Json.readChoice .json choices

end Effect

inductive StatusCode where
  | ok
  | processingError
  | syntaxError
deriving DecidableEq, Repr, Inhabited

namespace StatusCode

def name : StatusCode → String
  | ok => "Ok"
  | processingError => "ProcessingError"
  | syntaxError => "SyntaxError"

def urn : StatusCode → String
  | ok => "urn:oasis:names:tc:xacml:1.0:status:ok"
  | processingError => "urn:oasis:names:tc:xacml:1.0:status:processing-error"
  | syntaxError => "urn:oasis:names:tc:xacml:1.0:status:syntax-error"

def choices : List (String × StatusCode) :=
  [ok, processingError, syntaxError].map fun c => (c.name, c)

def read : Json.Reader StatusCode :=
  Json.readChoice .json choices

end StatusCode

/-- A status code and perhaps a message. -/
structure Status where
  code : StatusCode
  message : Option String
deriving DecidableEq, Repr, Inhabited

namespace Status

def ok : Status := ⟨.ok, none⟩

def toJson (status : Status) : Json :=
  .object <| ("code", .string status.code.name) :: Json.member? "message" .string status.message

structure Draft where
  code : Option StatusCode
  message : Option (Option String)

open Json in
def record : Record Draft Status where
  title := "struct Status"
  blank := ⟨none, none⟩
  fields :=
    [field "code" false StatusCode.read fun d v => { d with code := some v },
      field "message" true (readOption (readString .json)) fun d v => { d with message := some v }]
  strict := false
  finish d := do
    let code ← required "code" d.code
    pure ⟨code, d.message.join⟩

def read : Json.Reader Status :=
  record.read .json

end Status

/-- Values by attribute, in order. -/
abbrev Assignments : Type := Keyed (Prod.fst : String × String → String)

/-- Something to be done along with a decision. -/
structure Obligation where
  id : String
  fulfillOn : Effect
  assignments : Assignments
deriving DecidableEq, Inhabited

namespace Obligation

def toJson (obligation : Obligation) : Json :=
  .object <|
    [("obligation_id", .string obligation.id),
      ("fulfill_on", .string obligation.fulfillOn.name)] ++
      if obligation.assignments.isEmpty then []
      else
        [("assignments",
          .object (obligation.assignments.items.map fun (name, value) => (name, .string value)))]

structure Draft where
  id : Option String
  fulfillOn : Option Effect
  assignments : Option Assignments

open Json in
def record : Record Draft Obligation where
  title := "struct Obligation"
  blank := ⟨none, none, none⟩
  fields :=
    [field "obligation_id" false (readString .json) fun d v => { d with id := some v },
      field "fulfill_on" false Effect.read fun d v => { d with fulfillOn := some v },
      field "assignments" true
        (readMembers .json (readString .json)
          (fun (placed : Assignments) name value => placed.insert (name, value)) Keyed.empty)
        fun d v => { d with assignments := some v }]
  strict := false
  finish d := do
    let id ← required "obligation_id" d.id
    let fulfillOn ← required "fulfill_on" d.fulfillOn
    pure ⟨id, fulfillOn, d.assignments.getD .empty⟩

def read : Json.Reader Obligation :=
  record.read .json

end Obligation

/-- The engine's answer to a request. -/
structure Outcome where
  decision : Decision
  status : Status
  obligations : List Obligation
  resourceId : Option String
deriving DecidableEq, Inhabited

namespace Outcome

def new (decision : Decision) (obligations : List Obligation) (resourceId : Option String) :
    Outcome :=
  ⟨decision, .ok, obligations, resourceId⟩

/-- The outcome of a failure: no decision, no obligations, and a message. -/
def ofProcessingError (message : String) (resourceId : Option String) : Outcome :=
  ⟨.indeterminate, ⟨.processingError, some message⟩, [], resourceId⟩

def isProcessingError (outcome : Outcome) : Bool :=
  outcome.status.code = .processingError

/-- The obligations that count for the decision: those of its effect, the last of each
identifier, in order of first mention. -/
def effective (outcome : Outcome) : Keyed Obligation.id :=
  Keyed.ofList (outcome.obligations.filter fun o => o.fulfillOn.matches? outcome.decision)

def toJson (outcome : Outcome) : Json :=
  .object <|
    [("decision", .string outcome.decision.name), ("status", outcome.status.toJson),
      ("obligations", .array (outcome.obligations.map Obligation.toJson))] ++
      Json.member? "resource_id" .string outcome.resourceId

structure Draft where
  decision : Option Decision
  status : Option Status
  obligations : Option (List Obligation)
  resourceId : Option (Option String)

open Json in
def record : Record Draft Outcome where
  title := "struct EvaluationOutcome"
  blank := ⟨none, none, none, none⟩
  fields :=
    [field "decision" false Decision.read fun d v => { d with decision := some v },
      field "status" false Status.read fun d v => { d with status := some v },
      field "obligations" true (readList .json Obligation.read) fun d v =>
        { d with obligations := some v },
      field "resource_id" true (readOption (readString .json)) fun d v =>
        { d with resourceId := some v }]
  strict := false
  finish d := do
    let decision ← required "decision" d.decision
    let status ← required "status" d.status
    pure ⟨decision, status, d.obligations.getD [], d.resourceId.join⟩

def read : Json.Reader Outcome :=
  record.read .json

end Outcome

end DecisionPoint
