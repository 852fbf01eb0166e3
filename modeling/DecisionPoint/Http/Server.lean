import DecisionPoint.Http.Fault
import DecisionPoint.Http.Options
import DecisionPoint.SocketAddress

/-!
# The listeners of the server

Both addresses have to be bound before the service is started: first that for authorization
requests, then that for administration.
-/

set_option autoImplicit false

namespace DecisionPoint

structure BoundAddresses where
  http : SocketAddress
  admin : SocketAddress
deriving DecidableEq, Repr

def SocketAddress.bind (taken : List SocketAddress) (text : String) :
    Except ServerFault SocketAddress :=
  match SocketAddress.parse text with
  | none => .error (.bind text ("invalid address: " ++ complaint))
  | some address =>
    -- Port zero stands for any port that is free.
    if address.port ≠ 0 && taken.contains address then
      .error (.bind text "Address already in use (os error 98)")
    else .ok address

def ServerOptions.bind (options : ServerOptions) : Except ServerFault BoundAddresses := do
  let http ← SocketAddress.bind [] options.httpAddress
  let admin ← SocketAddress.bind [http] options.adminAddress
  pure ⟨http, admin⟩

end DecisionPoint
