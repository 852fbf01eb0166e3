import DecisionPoint.Json.Printer
import DecisionPoint.Request.Basic
import DecisionPoint.Result

/-!
# Messages of the authorization endpoint

A request arrives as one JSON value whose members are all known; a result leaves as one object, and
a request that cannot be decoded is answered by a fault.  A server may be given another `Codec`,
whose results need not all have a text.
-/

set_option autoImplicit false

namespace DecisionPoint

inductive RequestFault where
  | empty
  | malformed (reason : String)
  | invalid (reason : String)
deriving DecidableEq, Repr

def RequestFault.message : RequestFault → String
  | empty => "request body is empty"
  | malformed reason => "malformed request: " ++ reason
  | invalid reason => "invalid request: " ++ reason

/-- Why a result cannot be written. -/
structure EncodeFault where
  reason : String
deriving DecidableEq, Repr

def EncodeFault.message (fault : EncodeFault) : String :=
  "unable to encode response: " ++ fault.reason

namespace RequestMessage

/-- Blank bytes: space, tab, line feed, form feed and carriage return. -/
def isBlankByte (byte : UInt8) : Bool :=
  byte = 32 || byte = 9 || byte = 10 || byte = 12 || byte = 13

/-- Requests on the wire: members that are no fields are refused, and the identifier may be left
out. -/
def record : Json.Record Request.Draft Request.Draft where
  title := "struct JsonRequest"
  blank := .blank
  fields :=
    Json.field "request_id" true (Json.readOption (Json.readString .json))
        (fun d v => { d with id := some v }) :: Request.otherFields
  strict := true
  finish := .ok

/-- The reason given for a body that is no JSON document. -/
def illFormed : String := "<syntax>"

/-- The request that a draft describes; one without an identifier gets the fresh one. -/
def finish (fresh : String) (draft : Request.Draft) : Except RequestFault Request :=
  match draft.id.join with
  | some id =>
    if id.isEmpty then .error (.invalid "request_id must not be empty")
    else .ok (draft.toRequest id)
  | none => .ok (draft.toRequest fresh)

def decodeText (fresh text : String) : Except RequestFault Request :=
  match Json.decode (record.read .json) text with
  | .error .malformed => .error (.malformed illFormed)
  | .error (.mismatch reason) => .error (.malformed reason.message)
  | .ok draft => finish fresh draft

def decode (fresh : String) (body : ByteArray) : Except RequestFault Request :=
  if body.data.all isBlankByte then .error .empty
  else
    match String.fromUTF8? body with
    | none => .error (.malformed illFormed)
    | some text => decodeText fresh text

end RequestMessage

namespace ResponseMessage

def contentType : String := "application/json"

def defaultEntityId : String := "arbiter"

def document (entityId : String) (result : FinalResult) : Json :=
  let outcome := result.outcome
  .object <|
    [("response_id", .string result.responseId), ("in_response_to", .string result.requestId),
      ("issuer", .string entityId), ("issue_instant", result.completedAt.toJson),
      ("decision", .string outcome.decision.name),
      ("status",
        .object <|
          ("code", .string outcome.status.code.urn) ::
            Json.member? "message" .string outcome.status.message)] ++
      Json.member? "resource_id" .string outcome.resourceId ++
      if outcome.obligations.isEmpty then []
      else [("obligations", .array (outcome.obligations.map Obligation.toJson))]

def encode (entityId : String) (result : FinalResult) : String :=
  (document entityId result).text

def faultDocument (fault : RequestFault) : Json :=
  .object
    [("fault",
      .object
        [("code", .string StatusCode.syntaxError.urn), ("message", .string fault.message)])]

def encodeFault (fault : RequestFault) : String :=
  (faultDocument fault).text

end ResponseMessage

/-- How requests, results and faults stand on the wire. -/
structure Codec where
  contentType : String
  /-- The request of a body, with a fresh identifier for a request that has none. -/
  decode : String → ByteArray → Except RequestFault Request
  encodeResult : FinalResult → Except EncodeFault String
  encodeFault : RequestFault → String

/-- Messages in JSON, in which every result can be written. -/
def Codec.json (entityId : String) : Codec where
  contentType := ResponseMessage.contentType
  decode := RequestMessage.decode
  encodeResult result := .ok (ResponseMessage.encode entityId result)
  encodeFault := ResponseMessage.encodeFault

instance : Inhabited Codec := ⟨.json ResponseMessage.defaultEntityId⟩

end DecisionPoint
