import DecisionPoint.Policy.Cache
import DecisionPoint.Policy.Ticker

/-!
# The background loop of the cache

The loop refreshes the policy at each tick, the first at once.  A tick that finds another refresh
under way is let go.  Stopping the loop breaks off the refresh that it has under way.
-/

set_option autoImplicit false

namespace DecisionPoint

inductive LoopPhase where
  | fresh
  | ticking (ticker : Ticker)
  | fetching (ticker : Ticker) (wait : FetchWait)
deriving DecidableEq, Repr, Inhabited

namespace LoopPhase

def wake : LoopPhase → Option Nat
  | fresh => some 0
  | ticking ticker => some ticker.next
  | fetching _ wait => wait.wake

end LoopPhase

namespace PolicyCache

def startRefresh (cache : PolicyCache) (number : Nat) : Except ServiceFault PolicyCache :=
  if cache.options.refreshInterval.isZero then
    .error (.config "policy refresh interval must be positive")
  else if cache.loop.isSome then .error (.alreadyRunning "policy refresh task")
  else .ok { cache with loop := some number }

/-- Lets the loop go and tells its number.  Who does so has to wait until it has ended. -/
def dismissLoop (cache : PolicyCache) : PolicyCache × Option Nat :=
  ({ cache with loop := none }, cache.loop)

def tick (cache : PolicyCache) (journal : Journal) (now : Nat) (ticker : Ticker) :
    PolicyCache × Journal × LoopPhase :=
  let ticker := ticker.serve now
  if cache.refreshing then (cache, journal, .ticking ticker)
  else
    match cache.refresh journal now with
    | (cache, journal, .done _) => (cache, journal, .ticking ticker)
    | (cache, journal, .waiting wait) => (cache, journal, .fetching ticker wait)

/-- Runs the loop until it has to wait.  A loop that was stopped breaks off its refresh and ends. -/
def runLoop (cache : PolicyCache) (journal : Journal) (now : Nat) (stopped : Bool) :
    LoopPhase → PolicyCache × Journal × Progress Unit LoopPhase
  | .fresh =>
    if stopped then (cache, journal, .done ())
    else
      let (cache, journal, phase) :=
        cache.tick journal now (.start cache.options.refreshInterval.millis now)
      (cache, journal, .waiting phase)
  | .ticking ticker =>
    if stopped then (cache, journal, .done ())
    else if ticker.isDue now then
      let (cache, journal, phase) := cache.tick journal now ticker
      (cache, journal, .waiting phase)
    else (cache, journal, .waiting (.ticking ticker))
  | .fetching ticker wait =>
    if stopped then (cache.release, journal, .done ())
    else
      match cache.resume journal now wait with
      | (cache, journal, .done _) => (cache, journal, .waiting (.ticking ticker))
      | (cache, journal, .waiting wait) => (cache, journal, .waiting (.fetching ticker wait))

end PolicyCache

end DecisionPoint
