import DecisionPoint.Journal
import DecisionPoint.Policy.Source
import DecisionPoint.Progress

/-!
# The policy cache

The cache holds the snapshot that is in effect.  A refresh fetches a policy and publishes it at
once; one that fails leaves the snapshot as it is.  There is at most one refresh at a time: another
one is refused without a fetch.  A refresh that is broken off publishes nothing and makes way for
the next.
-/

set_option autoImplicit false

namespace DecisionPoint

structure CacheOptions where
  refreshInterval : Span
  fetchTimeout : Option Span
  /-- How often a load is tried before serving without a policy. -/
  startupRetries : UInt32
  startupBackoff : Span
deriving DecidableEq, Repr, Inhabited

namespace CacheOptions

def default : CacheOptions :=
  ⟨.ofSecs (240 * 60), some (.ofSecs 30), 5, .ofMillis 500⟩

def production : CacheOptions := default

/-- Frequent refreshes and a short wait at the start. -/
def development : CacheOptions :=
  ⟨.ofSecs 60, some (.ofSecs 5), 2, .ofMillis 250⟩

end CacheOptions

inductive RefreshOutcome where
  | published (policySetId version : String)
  | failed (reason : String)
deriving DecidableEq, Repr, Inhabited

def RefreshOutcome.succeeded : RefreshOutcome → Bool
  | published _ _ => true
  | failed _ => false

structure FetchWait where
  answersAt : Option Nat
  deadline : Option Nat
  limit : Span
deriving DecidableEq, Repr, Inhabited

def FetchWait.wake (wait : FetchWait) : Option Nat :=
  earlier wait.answersAt wait.deadline

structure PolicyCache where
  options : CacheOptions
  source : ScriptedSource
  current : Option PolicySnapshot
  generation : UInt64
  refreshing : Bool
  loop : Option Nat
  reports : Bool
deriving Inhabited

namespace PolicyCache

def new (source : ScriptedSource) (options : CacheOptions) (reports : Bool) : PolicyCache :=
  ⟨options, source, none, 0, false, none, reports⟩

/-- Takes the right to refresh; none while another refresh has it. -/
def acquire (cache : PolicyCache) : Option PolicyCache :=
  if cache.refreshing then none else some { cache with refreshing := true }

def release (cache : PolicyCache) : PolicyCache :=
  { cache with refreshing := false }

def publish (cache : PolicyCache) (snapshot : PolicySnapshot) : PolicyCache :=
  { cache with current := some snapshot, generation := cache.generation + 1 }

def refused : RefreshOutcome :=
  .failed "refresh already in progress"

def conclude (cache : PolicyCache) (journal : Journal) :
    Fetched → PolicyCache × Journal × RefreshOutcome
  | .ok snapshot =>
    ((cache.publish snapshot).release,
      (if cache.reports then journal.policyLoaded snapshot else journal).refreshed true,
      .published snapshot.policySetId snapshot.version)
  | .error fault => (cache.release, journal.refreshed false, .failed fault.message)

def fetchFrom (cache : PolicyCache) (now : Nat) : FetchWait :=
  ⟨some (now + cache.source.delay.getD 0),
    cache.options.fetchTimeout.map fun limit => now + limit.millis,
    cache.options.fetchTimeout.getD default⟩

/-- Goes on with a refresh: an answer counts if it comes no later than the deadline. -/
def resume (cache : PolicyCache) (journal : Journal) (now : Nat) (wait : FetchWait) :
    PolicyCache × Journal × Progress RefreshOutcome FetchWait :=
  if hasCome now wait.answersAt then
    let (source, fetched) := cache.source.answer
    let (cache, journal, outcome) := { cache with source := source }.conclude journal fetched
    (cache, journal, .done outcome)
  else if hasCome now wait.deadline then
    let (cache, journal, outcome) := cache.conclude journal (.error (.timeout wait.limit))
    (cache, journal, .done outcome)
  else (cache, journal, .waiting wait)

def refresh (cache : PolicyCache) (journal : Journal) (now : Nat) :
    PolicyCache × Journal × Progress RefreshOutcome FetchWait :=
  match cache.acquire with
  | none => (cache, journal, .done refused)
  | some cache => cache.resume journal now (cache.fetchFrom now)

end PolicyCache

end DecisionPoint
