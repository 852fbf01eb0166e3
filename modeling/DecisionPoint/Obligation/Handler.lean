import DecisionPoint.Fault
import DecisionPoint.Outcome
import DecisionPoint.Request.Basic

/-!
# Obligation handlers

A handler fulfils the obligations of one identifier after a decision.  It may be restricted to
decisions of one effect.  Handlers are told apart by their names, not by what they do.
-/

set_option autoImplicit false

namespace DecisionPoint

inductive HandlerAnswer where
  | fulfilled
  | failed (fault : ObligationFault)
  | panicked
deriving DecidableEq, Repr, Inhabited

structure Handler where
  name : String
  obligationId : String
  /-- Lower runs earlier. -/
  precedence : Int32
  restriction : Option Effect
  apply : Request → Outcome → Obligation → HandlerAnswer

namespace Handler

def plain (name obligationId : String) (apply : Request → Outcome → Obligation → HandlerAnswer) :
    Handler :=
  ⟨name, obligationId, 0, none, apply⟩

def admits (handler : Handler) (decision : Decision) : Bool :=
  match handler.restriction with
  | none => true
  | some effect => effect.matches? decision

/-- Applies a handler; one that breaks off fails in the name of the identifier under which it is
registered. -/
def run (handler : Handler) (registeredId : String) (request : Request) (outcome : Outcome)
    (obligation : Obligation) : Except ObligationFault Unit :=
  match handler.apply request outcome obligation with
  | .fulfilled => .ok ()
  | .failed fault => .error fault
  | .panicked => .error ⟨registeredId, "handler panicked"⟩

end Handler

end DecisionPoint
