import DecisionPoint.Request.Attribute

/-!
# Authorization requests

A request describes who wants to do what with which resources, under which circumstances.
-/

set_option autoImplicit false

namespace DecisionPoint

structure Request where
  id : String
  issuer : Option String
  subject : AttributeSet
  resources : List AttributeSet
  action : AttributeSet
  environment : AttributeSet
deriving DecidableEq, Inhabited

namespace Request

def blank (id : String) : Request :=
  ⟨id, none, .empty, [], .empty, .empty⟩

/-- The first resource identifier that any of the resources gives. -/
def resourceId? (request : Request) : Option String :=
  request.resources.findSome? fun resource =>
    AttributeSet.firstValue? resource resourceIdAttribute

def toJson (request : Request) : Json :=
  .object <|
    [("request_id", .string request.id)] ++
      Json.member? "issuer" .string request.issuer ++
      [("subject", AttributeSet.toJson request.subject),
        ("resources", .array (request.resources.map AttributeSet.toJson)),
        ("action", AttributeSet.toJson request.action),
        ("environment", AttributeSet.toJson request.environment)]

structure Draft where
  id : Option (Option String)
  issuer : Option (Option String)
  subject : Option AttributeSet
  resources : Option (List AttributeSet)
  action : Option AttributeSet
  environment : Option AttributeSet

def Draft.blank : Draft := ⟨none, none, none, none, none, none⟩

def Draft.toRequest (draft : Draft) (id : String) : Request :=
  ⟨id, draft.issuer.join, draft.subject.getD .empty, draft.resources.getD [],
    draft.action.getD .empty, draft.environment.getD .empty⟩

open Json in
def otherFields : List (Json.Field Draft) :=
  [field "issuer" true (readOption (readString .json)) fun d v => { d with issuer := some v },
    field "subject" true AttributeSet.read fun d v => { d with subject := some v },
    field "resources" true (readList .json AttributeSet.read) fun d v =>
      { d with resources := some v },
    field "action" true AttributeSet.read fun d v => { d with action := some v },
    field "environment" true AttributeSet.read fun d v => { d with environment := some v }]

open Json in
def record : Record Draft Request where
  title := "struct AuthorizationRequest"
  blank := .blank
  fields :=
    field "request_id" false (readString .json) (fun d v => { d with id := some (some v) }) ::
      otherFields
  strict := false
  finish d := do
    let id ← required "request_id" d.id.join
    pure (d.toRequest id)

def read : Json.Reader Request :=
  record.read .json

end Request

end DecisionPoint
