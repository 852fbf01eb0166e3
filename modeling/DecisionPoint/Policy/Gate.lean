import DecisionPoint.Policy.Cache

/-!
# The readiness gate

Before the service opens it tries to have a policy: it refreshes up to a number of times, with a
pause after each attempt that leaves the cache empty.  Giving up is no error.
-/

set_option autoImplicit false

namespace DecisionPoint

/-- What the gate waits for; `remaining` attempts are left after that. -/
inductive GatePhase where
  | fetching (remaining : Nat) (wait : FetchWait)
  | pausing (remaining : Nat) (time : Nat)
deriving DecidableEq, Repr, Inhabited

namespace GatePhase

def wake : GatePhase → Option Nat
  | fetching _ wait => wait.wake
  | pausing _ time => some time

end GatePhase

namespace PolicyCache

abbrev GateRun : Type := PolicyCache × Journal × Progress Bool GatePhase

def isReady (cache : PolicyCache) : Bool :=
  cache.current.isSome

/-- Makes attempts until there is a policy, none are left, or the gate has to wait. -/
def gate (cache : PolicyCache) (journal : Journal) (now backoff : Nat) : Nat → GateRun
  | 0 => (cache, journal, .done cache.isReady)
  | remaining + 1 =>
    if cache.isReady then (cache, journal, .done true)
    else
      match cache.refresh journal now with
      | (cache, journal, .waiting wait) => (cache, journal, .waiting (.fetching remaining wait))
      | (cache, journal, .done outcome) =>
        if outcome.succeeded then (cache, journal, .done cache.isReady)
        else if cache.isReady = false ∧ 0 < backoff then
          (cache, journal, .waiting (.pausing remaining (now + backoff)))
        else gate cache journal now backoff remaining

def gateAfter (cache : PolicyCache) (journal : Journal) (now backoff remaining : Nat)
    (outcome : RefreshOutcome) : GateRun :=
  if outcome.succeeded then (cache, journal, .done cache.isReady)
  else if cache.isReady = false ∧ 0 < backoff then
    (cache, journal, .waiting (.pausing remaining (now + backoff)))
  else cache.gate journal now backoff remaining

def resumeGate (cache : PolicyCache) (journal : Journal) (now backoff : Nat) : GatePhase → GateRun
  | .fetching remaining wait =>
    match cache.resume journal now wait with
    | (cache, journal, .waiting wait) => (cache, journal, .waiting (.fetching remaining wait))
    | (cache, journal, .done outcome) => cache.gateAfter journal now backoff remaining outcome
  | .pausing remaining time =>
    if time ≤ now then cache.gate journal now backoff remaining
    else (cache, journal, .waiting (.pausing remaining time))

end PolicyCache

end DecisionPoint
