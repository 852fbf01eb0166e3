/-!
# Tickers

A ticker is due at its start and then once in each period.  One that is served late skips the times
that it has missed and goes on with the first one to come; being late by no more than the tolerance
counts as being in time.
-/

set_option autoImplicit false

namespace DecisionPoint

/-- A ticker; times are in milliseconds. -/
structure Ticker where
  period : Nat
  next : Nat
deriving DecidableEq, Repr, Inhabited

namespace Ticker

def start (period now : Nat) : Ticker := ⟨period, now⟩

def isDue (ticker : Ticker) (now : Nat) : Bool :=
  ticker.next ≤ now

/-- How late a ticker may be served without skipping. -/
def tolerance : Nat := 5

def serve (ticker : Ticker) (now : Nat) : Ticker :=
  if ticker.next + tolerance < now then
    { ticker with next := now + ticker.period - (now - ticker.next) % ticker.period }
  else { ticker with next := ticker.next + ticker.period }

end Ticker

end DecisionPoint
