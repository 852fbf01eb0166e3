import DecisionPoint.Fault
import DecisionPoint.Http.Status
import DecisionPoint.Http.Url
import DecisionPoint.Identifier
import DecisionPoint.Json.Printer
import DecisionPoint.Policy.Source

/-!
# Policy administration points

A client asks the administration points one after another, in the configured order, and takes the
first policy that one of them returns.  Each query has a time limit of its own, so a point that
hangs costs its limit and does not keep the next from being asked.
-/

set_option autoImplicit false

namespace DecisionPoint

structure PolicyQuery where
  queryId : String
  issuer : String
  issueInstant : Instant
  policySetId : String
deriving DecidableEq, Inhabited

namespace PolicyQuery

def toJson (query : PolicyQuery) : Json :=
  .object
    [("query_id", .string query.queryId), ("issuer", .string query.issuer),
      ("issue_instant", query.issueInstant.toJson), ("policy_set_id", .string query.policySetId)]

structure Draft where
  queryId : Option String
  issuer : Option String
  issueInstant : Option Instant
  policySetId : Option String

open Json in
def record : Record Draft PolicyQuery where
  title := "struct PolicyQuery"
  blank := ⟨none, none, none, none⟩
  fields :=
    [field "query_id" false (readString .json) fun d v => { d with queryId := some v },
      field "issuer" false (readString .json) fun d v => { d with issuer := some v },
      field "issue_instant" false (Instant.read .json) fun d v => { d with issueInstant := some v },
      field "policy_set_id" false (readString .json) fun d v => { d with policySetId := some v }]
  strict := false
  finish d := do
    let queryId ← required "query_id" d.queryId
    let issuer ← required "issuer" d.issuer
    let issueInstant ← required "issue_instant" d.issueInstant
    let policySetId ← required "policy_set_id" d.policySetId
    pure ⟨queryId, issuer, issueInstant, policySetId⟩

def read : Json.Reader PolicyQuery :=
  record.read .json

end PolicyQuery

structure PolicyQueryResponse where
  policySets : List PolicyDocument
deriving Inhabited

namespace PolicyQueryResponse

def toJson (response : PolicyQueryResponse) : Json :=
  .object [("policy_sets", .array (response.policySets.map PolicyDocument.toJson))]

open Json in
def record : Record PolicyQueryResponse PolicyQueryResponse where
  title := "struct PolicyQueryResponse"
  blank := ⟨[]⟩
  fields := [field "policy_sets" true (readList .json (PolicyDocument.read 2)) fun _ v => ⟨v⟩]
  strict := false
  finish := .ok

def read : Json.Reader PolicyQueryResponse :=
  record.read .json

end PolicyQueryResponse

/-- What comes back from an endpoint. -/
inductive Reply where
  /-- The endpoint is no address that a query can be sent to. -/
  | unsendable
  | unreachable
  | answered (status : Nat) (body : String)
deriving DecidableEq, Repr, Inhabited

/-- What an endpoint does with a query: it replies after some milliseconds, or hangs. -/
structure Exchange where
  delay : Option Nat
  reply : Reply
deriving DecidableEq, Repr, Inhabited

namespace Exchange

def refused : Exchange := ⟨some 0, .unreachable⟩

/-- The reply under a time limit in milliseconds, and the time it took. -/
def within (exchange : Exchange) (limit : Nat) : Reply × Nat :=
  match exchange.delay with
  | some delay => if delay < limit then (exchange.reply, delay) else (.unreachable, limit)
  | none => (.unreachable, limit)

end Exchange

structure AdministrationClient where
  endpoints : List String
  policySetId : String
  entityId : String
  timeout : Span
  endpoints_ne_nil : endpoints ≠ []

namespace AdministrationClient

def new (policySetId : String) (endpoints : List String) (timeout : Span) :
    Except ServiceFault AdministrationClient :=
  if h : endpoints = [] then
    .error (.config "at least one policy administration point endpoint is required")
  else .ok ⟨endpoints, policySetId, "arbiter", timeout, h⟩

def query (client : AdministrationClient) (queryId : String) (now : Instant) : PolicyQuery :=
  ⟨queryId, client.entityId, now, client.policySetId⟩

/-- The policy in a reply.  Of several policies the first counts, whatever its identifier. -/
def policyOf (client : AdministrationClient) (endpoint : String) (loadedAt : Instant) :
    Reply → Except FetchFault PolicySnapshot
  | .unsendable => .error (.endpoint endpoint "builder error")
  | .unreachable =>
    let address := ((Url.parse endpoint).map Url.text).getD endpoint
    .error (.endpoint endpoint ("error sending request for url (" ++ address ++ ")"))
  | .answered status body =>
    if Http.isSuccess status then
      match Json.decode PolicyQueryResponse.read body with
      | .error _ => .error (.parse (endpoint ++ ": error decoding response body"))
      | .ok ⟨[]⟩ => .error (.noPolicy client.policySetId)
      | .ok ⟨first :: _⟩ => .ok (.ofDocument first loadedAt)
    else .error (.endpoint endpoint ("returned status " ++ Http.statusText status))

/-- The reply of an endpoint under the limit, and the time it took. -/
def ask (client : AdministrationClient) (endpoint : String) (exchange : Exchange) : Reply × Nat :=
  if (Url.parse endpoint).isNone then (.unsendable, 0) else exchange.within client.timeout.millis

structure Fetch where
  outcome : Except (List String) PolicySnapshot
  queries : List PolicyQuery
  elapsed : Nat

def Fetch.asked (fetch : Fetch) : Nat :=
  fetch.queries.length

/-- Asks endpoints in order until one returns a policy; `network i` is what the endpoint at
position `i` does, and `issue i` is the identifier of its query and the time at which that is
issued. -/
def fetchFrom (client : AdministrationClient) (issue : Nat → String × Instant)
    (loadedAt : Instant) (network : Nat → Exchange) :
    List String → List PolicyQuery → List String → Nat → Fetch
  | [], queries, failures, elapsed => ⟨.error failures, queries, elapsed⟩
  | endpoint :: rest, queries, failures, elapsed =>
    let (queryId, issuedAt) := issue queries.length
    let (reply, took) := client.ask endpoint (network queries.length)
    let queries := queries ++ [client.query queryId issuedAt]
    match client.policyOf endpoint loadedAt reply with
    | .ok snapshot => ⟨.ok snapshot, queries, elapsed + took⟩
    | .error fault =>
      fetchFrom client issue loadedAt network rest queries (failures ++ [fault.message])
        (elapsed + took)

/-- Asks all endpoints in order until one returns a policy. -/
def fetchWith (client : AdministrationClient) (issue : Nat → String × Instant)
    (loadedAt : Instant) (network : Nat → Exchange) : Fetch :=
  client.fetchFrom issue loadedAt network client.endpoints [] [] 0

/-- A fetch during which the calendar stands still. -/
def fetch (client : AdministrationClient) (loadedAt : Instant) (network : Nat → Exchange) : Fetch :=
  client.fetchWith (fun place => (freshIdentifier 0 place, loadedAt)) loadedAt network

def Fetch.result (fetch : Fetch) : Except FetchFault PolicySnapshot :=
  fetch.outcome.mapError .allEndpointsFailed

/-- The client as a source: each fetch takes as long as its queries do. -/
def source (client : AdministrationClient) (loadedAt : Instant) (network : Nat → Exchange) :
    ScriptedSource :=
  let fetch := client.fetch loadedAt network
  { ScriptedSource.always fetch.result with delay := some fetch.elapsed }

end AdministrationClient

end DecisionPoint
