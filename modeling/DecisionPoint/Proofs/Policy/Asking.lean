import DecisionPoint.Proofs.Json.ReadBack
import DecisionPoint.Proofs.Policy.Document

/-!
# What a client asks

`AdministrationClient.inquiries` is a fetch with each of its queries written down: what is sent to
which point, when, and what comes of it.  A point either answers with a policy or fails in one of
five ways, and `Answers` and `Fails` say which from what the point does.
-/

set_option autoImplicit false

namespace DecisionPoint

namespace AdministrationClient

structure Inquiry where
  endpoint : String
  query : PolicyQuery
  began : Nat
  ended : Nat
  answer : Except FetchFault PolicySnapshot

section Answers

variable (client : AdministrationClient)

/-- A point that is asked answers in time. -/
structure Replies (endpoint : String) (exchange : Exchange) (reply : Reply) : Prop where
  address : (Url.parse endpoint).isSome = true
  inTime : ∃ delay, exchange = ⟨some delay, reply⟩ ∧ delay < client.timeout.millis

/-- A point answers with a success status and some policies, the first of which counts. -/
def Answers (endpoint : String) (exchange : Exchange) (first : PolicyDocument) : Prop :=
  ∃ status body document more, client.Replies endpoint exchange (.answered status body) ∧
    Http.isSuccess status = true ∧ Json.parse body = some document ∧
    PolicyQueryResponse.Described document (first :: more)

inductive Fails (endpoint : String) (exchange : Exchange) : FetchFault → Prop where
  | noAddress (none : Url.parse endpoint = none) :
      Fails endpoint exchange (.endpoint endpoint "builder error")
  | unsent (replies : client.Replies endpoint exchange .unsendable) :
      Fails endpoint exchange (.endpoint endpoint "builder error")
  | unreachable {url : Url} (address : Url.parse endpoint = some url)
      (silent : client.Replies endpoint exchange .unreachable ∨
        ∀ delay ∈ exchange.delay, client.timeout.millis ≤ delay) :
      Fails endpoint exchange
        (.endpoint endpoint ("error sending request for url (" ++ url.text ++ ")"))
  | refused {status : Nat} {body : String}
      (replies : client.Replies endpoint exchange (.answered status body))
      (fails : Http.isSuccess status = false) :
      Fails endpoint exchange (.endpoint endpoint ("returned status " ++ Http.statusText status))
  | undecodable {status : Nat} {body : String}
      (replies : client.Replies endpoint exchange (.answered status body))
      (succeeds : Http.isSuccess status = true)
      (strange : ∀ document policies, Json.parse body = some document →
        ¬PolicyQueryResponse.Described document policies) :
      Fails endpoint exchange (.parse (endpoint ++ ": error decoding response body"))
  | empty {status : Nat} {body : String} {document : Json}
      (replies : client.Replies endpoint exchange (.answered status body))
      (succeeds : Http.isSuccess status = true) (parses : Json.parse body = some document)
      (none : PolicyQueryResponse.Described document []) :
      Fails endpoint exchange (.noPolicy client.policySetId)

variable (loadedAt : Instant)

def answerOf (endpoint : String) (exchange : Exchange) : Except FetchFault PolicySnapshot :=
  client.policyOf endpoint loadedAt (client.ask endpoint exchange).1

theorem decode_response_iff {body : String} {policies : List PolicyDocument} :
    Json.decode PolicyQueryResponse.read body = .ok ⟨policies⟩ ↔
      ∃ document, Json.parse body = some document ∧
        PolicyQueryResponse.Described document policies := by
  simp only [← PolicyQueryResponse.read_iff, Json.decode]
  cases Json.parse body with
  | none => simp
  | some document =>
      simp only [Option.some.injEq, exists_eq_left']
      cases PolicyQueryResponse.read document with
      | ok response => simp
      | error reason =>
          simp only [reduceCtorEq, iff_false]
          split <;> simp

variable {client : AdministrationClient} {endpoint : String} {exchange : Exchange}

theorem ask_of_replies {reply : Reply} (replies : client.Replies endpoint exchange reply) :
    (client.ask endpoint exchange).1 = reply := by
  obtain ⟨address, delay, rfl, inTime⟩ := replies
  have known : ¬(Url.parse endpoint).isNone = true := by simp [Option.isSome_iff_ne_none.mp address]
  simp only [ask, if_neg known, Exchange.within, if_pos inTime]

theorem answerOf_of_fails {fault : FetchFault} (fails : client.Fails endpoint exchange fault) :
    client.answerOf loadedAt endpoint exchange = .error fault := by
  cases fails with
  | noAddress none => simp [answerOf, ask, none, policyOf]
  | unsent replies => rw [answerOf, ask_of_replies replies, policyOf]
  | unreachable address silent =>
      have reply : (client.ask endpoint exchange).1 = .unreachable := by
        rcases silent with replies | late
        · exact ask_of_replies replies
        · have known : ¬(Url.parse endpoint).isNone = true := by simp [address]
          rw [ask, if_neg known, Exchange.within]
          cases delayed : exchange.delay with
          | none => rfl
          | some delay =>
              have waits : ¬delay < client.timeout.millis := Nat.not_lt.mpr (late delay delayed)
              simp only [if_neg waits]
      simp [answerOf, reply, policyOf, address]
  | refused replies fails =>
      simp only [answerOf, ask_of_replies replies, policyOf, fails, Bool.false_eq_true, if_false]
  | @undecodable status body replies succeeds strange =>
      have decodes : ∃ reason, Json.decode PolicyQueryResponse.read body = .error reason := by
        cases decoded : Json.decode PolicyQueryResponse.read body with
        | error reason => exact ⟨reason, rfl⟩
        | ok response =>
            obtain ⟨document, parses, described⟩ := decode_response_iff.mp decoded
            exact absurd described (strange document _ parses)
      obtain ⟨reason, decodes⟩ := decodes
      simp only [answerOf, ask_of_replies replies, policyOf, succeeds, if_true, decodes]
  | empty replies succeeds parses none =>
      have decodes := decode_response_iff.mpr ⟨_, parses, none⟩
      simp only [answerOf, ask_of_replies replies, policyOf, succeeds, if_true, decodes]

end Answers

/-! ## The queries of a fetch -/

section Inquiries

variable (client : AdministrationClient) (loadedAt : Instant) (network : Nat → Exchange)
  (issue : Nat → String × Instant)

/-- The queries to some points, the first of which is at a place, from a time on.  Each has an
identifier and a time of issue of its own. -/
def inquire : List String → Nat → Nat → List Inquiry
  | [], _, _ => []
  | endpoint :: rest, place, began =>
    let ended := began + (client.ask endpoint (network place)).2
    let answer := client.answerOf loadedAt endpoint (network place)
    ⟨endpoint, client.query (issue place).1 (issue place).2, began, ended, answer⟩ ::
      match answer with
      | .ok _ => []
      | .error _ => inquire rest (place + 1) ended

def conclude (failures : List String) : List Inquiry → Except (List String) PolicySnapshot
  | [] => .error failures
  | inquiry :: later =>
    match inquiry.answer with
    | .ok snapshot => .ok snapshot
    | .error fault => conclude (failures ++ [fault.message]) later

inductive EachFails : List String → Nat → List FetchFault → Prop where
  | nil {place : Nat} : EachFails [] place []
  | cons {endpoint : String} {rest : List String} {place : Nat} {fault : FetchFault}
      {faults : List FetchFault} (fails : client.Fails endpoint (network place) fault)
      (later : EachFails rest (place + 1) faults) :
      EachFails (endpoint :: rest) place (fault :: faults)

variable {client network}

theorem EachFails.conclude {endpoints : List String} {place : Nat} {faults : List FetchFault}
    (fail : client.EachFails network endpoints place faults) (failures : List String)
    (began : Nat) :
    let made := client.inquire loadedAt network issue endpoints place began
    made.map Inquiry.answer = faults.map .error ∧
      conclude failures made = .error (failures ++ faults.map FetchFault.message) := by
  induction fail generalizing failures began with
  | nil => exact ⟨rfl, by simp [inquire, AdministrationClient.conclude]⟩
  | @cons endpoint rest place fault faults fails later ih =>
      obtain ⟨answers, told⟩ := ih (failures ++ [fault.message])
        (began + (client.ask endpoint (network place)).2)
      simp only [inquire, answerOf_of_fails loadedAt fails, List.map_cons, answers,
        AdministrationClient.conclude, told, List.append_assoc, List.singleton_append]
      exact ⟨trivial, trivial⟩

end Inquiries

end AdministrationClient

namespace SampleAsking

/-- A policy without a combining algorithm and a document. -/
def document : Json :=
  .object [("policy_sets",
    .array [.object [("policy_set_id", .string "beta"), ("version", .string "7")]])]

def network : Nat → Exchange
  | 0 => ⟨some 5, .answered 503 ""⟩
  | _ => ⟨some 5, .answered 200 document.text⟩

def client : AdministrationClient :=
  ⟨["http://first/", "http://second/", "http://third/"], "alpha", "arbiter", .ofMillis 5000,
    by decide⟩

end SampleAsking

end DecisionPoint
