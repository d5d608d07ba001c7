import Outbound.Address.Endpoint
import Outbound.Error

/-!
# Errors of the host

What a host can refuse while a socket is made ready. `HostError.toError` gives the error that
leaves the dialer, and keeps both its text and whether it is a fault of the configuration.
-/
namespace Outbound

/-- A socket could not be made ready. -/
inductive HostError where
  /-- A socket option could not be set. -/
  | socketOption (option reason : String)
  /-- The host lacks a feature. -/
  | unsupported (feature : String)
  /-- The protect service refused or dropped the socket. -/
  | protect (path reason : String)
  /-- Connecting took longer than allowed. -/
  | timeout (endpoint : Endpoint) (milliseconds : Nat)
  /-- An error that is not the host's own. -/
  | general (error : Error)
  /-- An input or output operation failed. -/
  | io (error : IoError)
  deriving DecidableEq

namespace HostError

/-- The name of the cause. -/
def name : HostError → String
  | socketOption .. => "SocketOption"
  | unsupported _ => "PlatformUnsupported"
  | protect .. => "Protect"
  | timeout .. => "Timeout"
  | general error => error.name
  | io _ => "Io"

/-- The wording of an error. -/
def message : HostError → String
  | socketOption option reason => s!"Failed to set {option}: {reason}"
  | unsupported feature => s!"Unsupported on this platform: {feature}"
  | protect path reason => s!"Protect via '{path}' failed: {reason}"
  | timeout endpoint milliseconds =>
    s!"Connect to {endpoint.text} timed out after {milliseconds}ms"
  | general error => error.message
  | io error => s!"IO error: {error.text}"

/-- Whether an error is a fault of the configuration. -/
def isConfig : HostError → Bool
  | unsupported _ => true
  | general error => error.isConfig
  | socketOption .. | protect .. | timeout .. | io _ => false

/-- The error that leaves the dialer. -/
def toError : HostError → Error
  | general error => error
  | io error => .io error
  | unsupported feature => .unsupported feature
  | error@(timeout ..) => .io ⟨.timedOut, error.message⟩
  | error => .io ⟨.other, error.message⟩

end HostError

end Outbound
