import DecisionPoint.Fault
import DecisionPoint.Policy

/-!
# A scripted policy source

A source that answers from memory: queued answers first, each once, and then the same answer each
time.  It may take its time before each answer.
-/

set_option autoImplicit false

namespace DecisionPoint

abbrev Fetched : Type := Except FetchFault PolicySnapshot

structure ScriptedSource where
  queued : List Fetched
  fallback : Fetched
  delay : Option Nat
  fetches : Nat

namespace ScriptedSource

def always (answer : Fetched) : ScriptedSource :=
  ⟨[], answer, none, 0⟩

def unavailable : ScriptedSource :=
  always (.error (.unavailable "no policy configured"))

instance : Inhabited ScriptedSource := ⟨unavailable⟩

def push (source : ScriptedSource) (answer : Fetched) : ScriptedSource :=
  { source with queued := source.queued ++ [answer] }

/-- Changes the answer that is given when none is queued. -/
def withFallback (source : ScriptedSource) (answer : Fetched) : ScriptedSource :=
  { source with fallback := answer }

def answer (source : ScriptedSource) : ScriptedSource × Fetched :=
  match source.queued with
  | first :: rest => ({ source with queued := rest, fetches := source.fetches + 1 }, first)
  | [] => ({ source with fetches := source.fetches + 1 }, source.fallback)

end ScriptedSource

end DecisionPoint
