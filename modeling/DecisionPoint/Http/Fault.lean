import DecisionPoint.Fault

/-!
# Faults of the server
-/

set_option autoImplicit false

namespace DecisionPoint

inductive ServerFault where
  | bind (address reason : String)
  | io (reason : String)
  | service (fault : ServiceFault)
deriving DecidableEq, Repr

def ServerFault.message : ServerFault → String
  | bind address reason => "failed to bind " ++ address ++ ": " ++ reason
  | io reason => "I/O error: " ++ reason
  | service fault => "policy decision point failed to start: " ++ fault.message

end DecisionPoint
