import DecisionPoint.Time.Span

/-!
# Faults

Each kind of collaborator has its own faults, and each fault is a cause with one wording.  A
`ServiceFault` is what starting or building the service reports.
-/

set_option autoImplicit false

namespace DecisionPoint

inductive FetchFault where
  | endpoint (address message : String)
  | allEndpointsFailed (failures : List String)
  | noPolicy (policySetId : String)
  | parse (message : String)
  | timeout (after : Span)
  | unavailable (message : String)
deriving DecidableEq, Repr

namespace FetchFault

def message : FetchFault → String
  | endpoint address reason => "policy administration point " ++ address ++ " failed: " ++ reason
  | allEndpointsFailed failures =>
    "no policy administration point could be reached: " ++ "; ".intercalate failures
  | noPolicy policySetId => "policy administration point returned no policy for " ++ policySetId
  | parse reason => "unable to parse policy document: " ++ reason
  | timeout after => "policy fetch timed out after " ++ after.text
  | unavailable reason => "policy source unavailable: " ++ reason

/-- Failures on the way to a policy are worth another try; a bad policy is not. -/
def isRetryable : FetchFault → Bool
  | endpoint _ _ | allEndpointsFailed _ | timeout _ | unavailable _ => true
  | noPolicy _ | parse _ => false

end FetchFault

/-- Why an information point gave no answer. -/
inductive InformationFault where
  | failed (message : String)
  | conflict (attributeId existing attempted : String)
  | timeout (after : Span)
deriving DecidableEq, Repr

def InformationFault.message : InformationFault → String
  | failed message => message
  | conflict attributeId existing attempted =>
    "attribute " ++ attributeId ++ " is already present with data type " ++ existing ++
      ", cannot add values of type " ++ attempted
  | timeout after => "timed out after " ++ after.text

structure ObligationFault where
  obligationId : String
  reason : String
deriving DecidableEq, Repr

def ObligationFault.message (fault : ObligationFault) : String :=
  "obligation " ++ fault.obligationId ++ " could not be fulfilled: " ++ fault.reason

inductive RegistryFault where
  | duplicateHandler (obligationId : String)
deriving DecidableEq, Repr

def RegistryFault.message : RegistryFault → String
  | duplicateHandler obligationId =>
    "a different handler is already registered for obligation " ++ obligationId

inductive AdmissionFault where
  | busy
  | closed
deriving DecidableEq, Repr

def AdmissionFault.message : AdmissionFault → String
  | busy => "service busy: request queue is full"
  | closed => "service is not accepting requests"

/-- Why the service could not be built, started or changed. -/
inductive ServiceFault where
  | fetch (fault : FetchFault)
  | registry (fault : RegistryFault)
  | information (fault : InformationFault)
  | config (message : String)
  | alreadyRunning (component : String)
  | notRunning (component : String)
deriving DecidableEq, Repr

namespace ServiceFault

def message : ServiceFault → String
  | fetch fault => fault.message
  | registry fault => fault.message
  | information fault => fault.message
  | config reason => "configuration error: " ++ reason
  | alreadyRunning component => component ++ " is already running"
  | notRunning component => component ++ " is not running"

def isRetryable : ServiceFault → Bool
  | fetch fault => fault.isRetryable
  | _ => false

end ServiceFault

end DecisionPoint
