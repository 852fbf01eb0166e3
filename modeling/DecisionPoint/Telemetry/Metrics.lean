import DecisionPoint.Keyed

/-!
# Metrics

Counters with at most one label, the number of observed durations, and their text form.  A counter
appears in the text once it has been counted.
-/

set_option autoImplicit false

namespace DecisionPoint

inductive Counter where
  | request (decision : String)
  | requestError (kind : String)
  | admissionRejection
  | policyRefresh (succeeded : Bool)
  | obligationApplied (obligationId : String)
deriving DecidableEq, Repr, Inhabited

namespace Counter

def name : Counter → String
  | request _ => "arbiter_requests_total"
  | requestError _ => "arbiter_request_errors_total"
  | admissionRejection => "arbiter_admission_rejections_total"
  | policyRefresh _ => "arbiter_policy_refresh_total"
  | obligationApplied _ => "arbiter_obligations_applied_total"

def help : Counter → String
  | request _ => "Total authorization requests completed, by decision"
  | requestError _ => "Total authorization requests terminated by an error, by kind"
  | admissionRejection =>
    "Total requests rejected because the worker pool and queue were saturated"
  | policyRefresh _ => "Total policy refresh attempts, by result"
  | obligationApplied _ => "Total obligation handler invocations, by obligation id"

def label? : Counter → Option (String × String)
  | request decision => some ("decision", decision)
  | requestError kind => some ("kind", kind)
  | admissionRejection => none
  | policyRefresh succeeded => some ("result", if succeeded then "success" else "failure")
  | obligationApplied obligationId => some ("obligation_id", obligationId)

end Counter

structure Metrics where
  counts : List (Counter × Nat)
  durations : Nat
deriving Inhabited

namespace Metrics

def empty : Metrics := ⟨[], 0⟩

def count (metrics : Metrics) (counter : Counter) : Nat :=
  (metrics.counts.lookup counter).getD 0

def bump (counter : Counter) : List (Counter × Nat) → List (Counter × Nat)
  | [] => [(counter, 1)]
  | (other, n) :: rest =>
    if counter = other then (other, n + 1) :: rest else (other, n) :: bump counter rest

def increment (metrics : Metrics) (counter : Counter) : Metrics :=
  { metrics with counts := bump counter metrics.counts }

def recordDecision (metrics : Metrics) (decision : String) : Metrics :=
  { metrics.increment (.request decision) with durations := metrics.durations + 1 }

def recordError (metrics : Metrics) (kind : String) : Metrics :=
  metrics.increment (.requestError kind)

def recordRejection (metrics : Metrics) : Metrics :=
  metrics.increment .admissionRejection

def recordRefresh (metrics : Metrics) (succeeded : Bool) : Metrics :=
  metrics.increment (.policyRefresh succeeded)

def recordObligation (metrics : Metrics) (obligationId : String) : Metrics :=
  metrics.increment (.obligationApplied obligationId)

/-! ## The text form -/

/-- The characters of a label value.  Line feeds and quotes are escaped.  A backslash is held back:
before a quote it counts as the escape of that quote, otherwise it is escaped itself. -/
def labelChars : Bool → List Char → List Char
  | false, [] => []
  | true, [] => ['\\', '\\']
  | held, c :: rest =>
    if c = '\n' then '\\' :: 'n' :: labelChars held rest
    else if c = '"' then '\\' :: '"' :: labelChars false rest
    else if c = '\\' then
      if held then '\\' :: '\\' :: labelChars false rest else labelChars true rest
    else if held then '\\' :: '\\' :: c :: labelChars false rest
    else c :: labelChars false rest

def labelText (value : String) : String :=
  "\"" ++ String.ofList (labelChars false value.toList) ++ "\""

def seriesText (counter : Counter) : String :=
  match counter.label? with
  | none => counter.name
  | some (key, value) => String.join [counter.name, "\x7b", key, "=", labelText value, "\x7d"]

def introduction (name help kind : String) : List String :=
  ["# HELP " ++ name ++ " " ++ help, "# TYPE " ++ name ++ " " ++ kind]

/-- The counters of one name as they are written, in order.  Different labels may be written the
same way; then only one of their counters shows. -/
def series (metrics : Metrics) (name : String) : Keyed (Prod.fst : String × Nat → String) :=
  .ofList <| (metrics.counts.filter fun item => item.1.name = name).map fun (counter, n) =>
    (seriesText counter, n)

/-- The counters of one name, in order, with an introduction. -/
def family (metrics : Metrics) (counter : Counter) : List String :=
  introduction counter.name counter.help "counter" ++
    (metrics.series counter.name).items.map fun (text, n) => text ++ " " ++ toString n

def leaders (metrics : Metrics) : List Counter :=
  metrics.counts.foldl
    (fun seen item =>
      if seen.any fun other => other.name = item.1.name then seen else seen ++ [item.1])
    []

def durationName : String := "arbiter_request_duration_seconds"

def durationLines (metrics : Metrics) : List String :=
  if metrics.durations = 0 then []
  else
    introduction durationName "Authorization pipeline duration in seconds" "summary" ++
      [durationName ++ "_count " ++ toString metrics.durations]

def lines (metrics : Metrics) : List String :=
  metrics.leaders.flatMap metrics.family ++ metrics.durationLines

end Metrics

end DecisionPoint
