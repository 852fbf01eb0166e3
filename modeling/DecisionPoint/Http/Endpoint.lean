import DecisionPoint.Http.Codec
import DecisionPoint.Http.Message
import DecisionPoint.Http.Options
import DecisionPoint.Service.Requests

/-!
# The endpoints

The authorization endpoint decides requests, the admin endpoint tells and changes the state of the
service.  A request that cannot be answered with a decision is counted as an error of the transport,
unless it was not admitted, which admission counts.
-/

set_option autoImplicit false

namespace DecisionPoint

/-- What the answer to a request waits for. -/
inductive ExchangePhase where
  | fresh
  | reading (deadline : Nat)
  | authorizing (ticket : Ticket) (deadline : Nat)
  | reloading (wait : FetchWait)
deriving Inhabited

inductive Listener where
  | authorization
  | admin
deriving DecidableEq, Repr, Inhabited

namespace Listener

def all : List Listener := [authorization, admin]

def name : Listener → String
  | authorization => "authz"
  | admin => "admin"

end Listener

namespace Service

abbrev Answering : Type := Service × Progress HttpResponse ExchangePhase

def answerError (service : Service) (kind : String) (response : HttpResponse) : Answering :=
  ({ service with journal := service.journal.transportFailed kind }, .done response)

def faultResponse (codec : Codec) (fault : RequestFault) : HttpResponse :=
  ⟨500, codec.contentType, codec.encodeFault fault⟩

def answerFault (service : Service) (codec : Codec) (fault : RequestFault) : Answering :=
  service.answerError "decode" (faultResponse codec fault)

/-- Answers a request whose body did not arrive in time. -/
def answerLateBody (service : Service) : Answering :=
  service.answerError "body_timeout" (.plain 408 "request body timed out\n")

def unwrittenResponse (fault : EncodeFault) : HttpResponse :=
  .plain 500 (fault.message ++ "\n")

/-- Answers with a result, if it can be written. -/
def answerResult (service : Service) (codec : Codec) (result : FinalResult) : Answering :=
  match codec.encodeResult result with
  | .ok body => (service, .done ⟨200, codec.contentType, body⟩)
  | .error fault => service.answerError "encode" (unwrittenResponse fault)

def refusalResponse : AdmissionFault → HttpResponse
  | .busy => .plain 503 "service busy\n"
  | .closed => .plain 503 "service is not accepting requests\n"

/-- Waits for the result of a request until a deadline, and then lets go of it. -/
def awaitResult (service : Service) (now : Nat) (codec : Codec) (ticket : Ticket)
    (deadline : Nat) : Answering :=
  match service.collect ticket with
  | (service, .done result) => service.answerResult codec result
  | (service, .waiting ticket) =>
    if deadline ≤ now then
      (service.leave ticket).answerError "timeout" (.plain 504 "authorization timed out\n")
    else (service, .waiting (.authorizing ticket deadline))

def answerBody (service : Service) (now : Nat) (codec : Codec) (options : ServerOptions)
    (body : ByteArray) : Answering :=
  let (number, service) := service.freshNumber
  match codec.decode (freshIdentifier now number) body with
  | .error fault => service.answerFault codec fault
  | .ok request =>
    match service.submit request with
    | (service, .error fault) => (service, .done (refusalResponse fault))
    | (service, .ok ticket) =>
      service.awaitResult now codec ticket (now + options.requestTimeout.millis)

/-- Reads the body of a request and decides it.  A body that is not empty takes a moment to arrive,
which a limit of zero does not grant. -/
def answerAuthorization (service : Service) (now : Nat) (codec : Codec) (options : ServerOptions)
    (request : HttpRequest) : Answering :=
  let limit := options.requestTimeout.millis
  if limit = 0 ∧ (request.body.size ≠ 0 ∨ request.isComplete = false) then service.answerLateBody
  else if options.maxBodyBytes.toNat < request.body.size then
    service.answerFault codec (.malformed "unable to read body: length limit exceeded")
  else if request.isComplete then service.answerBody now codec options request.body
  else (service, .waiting (.reading (now + limit)))

def reloadResponse : RefreshOutcome → HttpResponse
  | .published policySetId version =>
    .plain 200 (String.join ["policy reloaded: ", policySetId, " version ", version, "\n"])
  | .failed reason => .plain 503 (String.join ["policy reload failed: ", reason, "\n"])

def afterReload (service : Service) :
    PolicyCache × Journal × Progress RefreshOutcome FetchWait → Answering
  | (cache, journal, .done outcome) =>
    (service.withCache cache journal, .done (reloadResponse outcome))
  | (cache, journal, .waiting wait) => (service.withCache cache journal, .waiting (.reloading wait))

def healthWord (service : Service) : String :=
  if service.isRunning then if service.cache.isReady then "healthy" else "degraded" else "stopped"

def health (service : Service) : Json :=
  .object <|
    [("status", .string service.healthWord), ("running", .bool service.isRunning),
      ("policy_loaded", .bool service.cache.isReady)] ++
      Json.member? "policy_set_id" .string (service.cache.current.map PolicySnapshot.policySetId) ++
      Json.member? "policy_version" .string (service.cache.current.map PolicySnapshot.version)

def healthResponse (service : Service) : HttpResponse :=
  ⟨if service.isRunning then 200 else 503, "application/json", service.health.text⟩

def statusResponse (service : Service) : HttpResponse :=
  .plain 200 service.report.text

def metricsResponse (metrics : Option Metrics) : HttpResponse :=
  match metrics with
  | some metrics =>
    ⟨200, "text/plain; version=0.0.4", String.join (metrics.lines.map (· ++ "\n"))⟩
  | none => .plain 404 "metrics are disabled\n"

/-- Answers a request until the answer has to wait or is there; `metrics` tells whether metrics are
served. -/
def answer (service : Service) (now : Nat) (codec : Codec) (options : ServerOptions)
    (metrics : Bool) (listener : Listener) (request : HttpRequest) : ExchangePhase → Answering
  | .fresh =>
    match listener, request.verb, request.path with
    | .authorization, "POST", "/authz" => service.answerAuthorization now codec options request
    | .authorization, "GET", "/status" => (service, .done service.statusResponse)
    | .admin, "GET", "/status" => (service, .done service.statusResponse)
    | .admin, "GET", "/reloadPolicy" | .admin, "POST", "/reloadPolicy" =>
      service.afterReload (service.cache.refresh service.journal now)
    | .admin, "GET", "/health" => (service, .done service.healthResponse)
    | .admin, "GET", "/metrics" =>
      (service, .done (metricsResponse (if metrics then some service.journal.metrics else none)))
    | _, _, _ => (service, .done .notFound)
  | .reading deadline =>
    if deadline ≤ now then service.answerLateBody else (service, .waiting (.reading deadline))
  | .authorizing ticket deadline => service.awaitResult now codec ticket deadline
  | .reloading wait => service.afterReload (service.cache.resume service.journal now wait)

def answerCanGoOn (service : Service) (now : Nat) : ExchangePhase → Bool
  | .fresh => true
  | .reading deadline => deadline ≤ now
  | .authorizing ticket deadline => (service.answer? ticket).isSome || deadline ≤ now
  | .reloading wait => hasCome now wait.wake

end Service

end DecisionPoint
