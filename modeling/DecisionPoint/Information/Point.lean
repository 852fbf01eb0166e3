import DecisionPoint.Information.Script

/-!
# Information points

An information point is started with the service, is asked about each request, and is stopped with
the service.
-/

set_option autoImplicit false

namespace DecisionPoint

/-- A supplier of further attributes. -/
structure Point where
  id : String
  isFunction : Bool
  start : Except InformationFault Unit
  stop : Except InformationFault Unit
  enrich : Script

namespace Point

instance : Inhabited Point := ⟨⟨"", true, .ok (), .ok (), default⟩⟩

def ofScript (id : String) (enrich : Script) : Point :=
  ⟨id, true, .ok (), .ok (), enrich⟩

end Point

end DecisionPoint
