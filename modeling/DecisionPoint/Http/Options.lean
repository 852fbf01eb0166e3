import DecisionPoint.Configuration.Schema
import DecisionPoint.Time.Span

/-!
# Options of the server
-/

set_option autoImplicit false

namespace DecisionPoint

/-- The addresses and limits of the listeners. -/
structure ServerOptions where
  httpAddress : String
  adminAddress : String
  /-- How long open connections are waited for in the end. -/
  shutdownTimeout : Span
  /-- The limit on reading a body, and on answering its request. -/
  requestTimeout : Span
  maxBodyBytes : UInt64
deriving DecidableEq, Repr, Inhabited

namespace ServerOptions

def default : ServerOptions :=
  ⟨"0.0.0.0:8152", "127.0.0.1:8153", .ofSecs 30, .ofSecs 30, 1048576⟩

def ofSettings (settings : ServiceSettings) : ServerOptions :=
  { default with
    httpAddress := settings.httpAddress
    adminAddress := settings.adminAddress
    shutdownTimeout := .ofSecs settings.shutdownTimeoutSecs.toNat
    requestTimeout := .ofMillis settings.requestTimeoutMillis.toNat }

end ServerOptions

end DecisionPoint
