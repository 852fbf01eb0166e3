import DecisionPoint.Evaluation.Call
import DecisionPoint.Http.Options
import DecisionPoint.Json.Printer
import DecisionPoint.Service.Basic

/-!
# Documents about rehearsals

What a rehearsal tells of calls, refreshes, options and the state of a service.
-/

set_option autoImplicit false

namespace DecisionPoint

open Json

/-! ## Options -/

def Span.toJson (span : Span) : Json :=
  .array [nat span.secs, nat span.nanos]

def wordJson (value : UInt64) : Json :=
  nat value.toNat

def CacheOptions.toJson (options : CacheOptions) : Json :=
  .object
    [("refresh_interval", options.refreshInterval.toJson),
      ("fetch_timeout", option Span.toJson options.fetchTimeout),
      ("startup_retries", nat options.startupRetries.toNat),
      ("startup_backoff", options.startupBackoff.toJson)]

def AdmissionOptions.toJson (options : AdmissionOptions) : Json :=
  .object
    [("max_requests", wordJson options.maxRequests),
      ("queue_capacity", option wordJson options.queueCapacity)]

def ServiceOptions.toJson (options : ServiceOptions) : Json :=
  .object
    [("service_name", .string options.serviceName), ("entity_id", .string options.entityId),
      ("cache", options.cache.toJson), ("admission", options.admission.toJson),
      ("pip_timeout", option Span.toJson options.pointTimeout)]

def ServerOptions.toJson (options : ServerOptions) : Json :=
  .object
    [("http_addr", .string options.httpAddress), ("admin_addr", .string options.adminAddress),
      ("shutdown_timeout", options.shutdownTimeout.toJson),
      ("request_timeout", options.requestTimeout.toJson),
      ("max_body_bytes", wordJson options.maxBodyBytes)]

/-! ## Events -/

def RefreshOutcome.toJson : RefreshOutcome → Json
  | published policySetId version =>
    .object
      [("ok", .bool true), ("policy_set_id", .string policySetId), ("version", .string version)]
  | failed reason => .object [("ok", .bool false), ("reason", .string reason)]

def Handler.callJson (handler : Handler) (obligation : Obligation) (outcome : Outcome)
    (request : Request) : Json :=
  .object
    [("handler", .string handler.name), ("obligation", .string obligation.toJson.text),
      ("decision", .string outcome.decision.name),
      ("resource_id", option .string outcome.resourceId), ("request_id", .string request.id)]

def Point.callJson (point : Point) (call : String) (more : List (String × Json)) : Json :=
  .object ([("pip", .string point.id), ("call", .string call)] ++ more)

/-- A call; starts and stops of mere functions are not told. -/
def Call.toJson? : Call → Option Json
  | start point => if point.isFunction then none else some (point.callJson "start" [])
  | stop point => if point.isFunction then none else some (point.callJson "stop" [])
  | enrich point request =>
    some (point.callJson "enrich" [("request_id", .string request.id)])
  | decide policy request =>
    some
      (.object
        [("engine", strings [policy.policySetId, policy.version, policy.combiningAlgorithm]),
          ("request", request.toJson)])
  | fulfil handler obligation outcome request =>
    some (handler.callJson obligation outcome request)

def Service.toJson (service : Service) : Json :=
  let report := service.report
  .object
    [("running", .bool service.isRunning), ("task", .bool service.isRefreshRunning),
      ("generation", wordJson service.cache.generation),
      ("version", option .string (service.cache.current.map PolicySnapshot.version)),
      ("fetches", nat service.cache.source.fetches),
      ("handlers", strings service.registry.handlerIds),
      ("requests", wordJson report.totalRequests),
      ("completed", wordJson report.totalCompletedRequests),
      ("errors", wordJson report.totalRequestErrors),
      ("rejections", wordJson report.admissionRejections)]

end DecisionPoint
