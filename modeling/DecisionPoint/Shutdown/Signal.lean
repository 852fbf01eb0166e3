/-!
# The shutdown signal

A signal is given at most once and stays given.  All who hold it see the same.
-/

set_option autoImplicit false

namespace DecisionPoint

inductive ProcessSignal where
  | terminate
  | interrupt
  | other
deriving DecidableEq, Repr, Inhabited

structure ShutdownSignal where
  isGiven : Bool
deriving DecidableEq, Repr, Inhabited

namespace ShutdownSignal

def new : ShutdownSignal := ⟨false⟩

def trigger (_ : ShutdownSignal) : ShutdownSignal := ⟨true⟩

def heed (signal : ShutdownSignal) : ProcessSignal → ShutdownSignal
  | .terminate | .interrupt => signal.trigger
  | .other => signal

def hasArrived (signal : ShutdownSignal) : Bool :=
  signal.isGiven

end ShutdownSignal

end DecisionPoint
