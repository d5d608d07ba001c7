import Outbound.Hex
import Outbound.Io

/-!
# Errors

An `Error` says why a setting was refused or an operation failed. `Error.isConfig` tells the
faults of a configuration from those of a run, `Error.message` words each of them, and
`Error.toIo` is the input or output error that a caller of a stream or a socket sees instead.
-/
namespace Outbound

/-- A refused setting or a failed operation. -/
inductive Error where
  /-- A text is no range. -/
  | invalidRange (input reason : String)
  /-- A configuration fault without a key. -/
  | config (text : String)
  /-- The value of a configuration key is refused. -/
  | configValue (key text : String)
  /-- A text names no mode of filler packets. -/
  | invalidFakePacketMode (mode reason : String)
  /-- A feature is not available. -/
  | unsupported (feature : String)
  /-- No port of a range could be bound within the allowed attempts. -/
  | noPortAvailable (first last : UInt16) (attempts : Nat)
  /-- A relay could not be set up. -/
  | turnRelay (server stage text : String)
  /-- An address could not be read or resolved. -/
  | invalidAddress (address reason : String)
  /-- An input or output operation failed. -/
  | io (error : IoError)
  /-- A text is no string of octets. -/
  | hexDecode (error : HexError)
  deriving DecidableEq, Inhabited

namespace Error

/-- The name of the cause. -/
def name : Error → String
  | invalidRange .. => "InvalidRange"
  | config .. => "Config"
  | configValue .. => "ConfigValue"
  | invalidFakePacketMode .. => "InvalidFakePacketMode"
  | unsupported .. => "Unsupported"
  | noPortAvailable .. => "NoPortAvailable"
  | turnRelay .. => "TurnRelay"
  | invalidAddress .. => "InvalidAddress"
  | io .. => "Io"
  | hexDecode .. => "HexDecode"

/-- The wording of an error. -/
def message : Error → String
  | invalidRange input reason => s!"Invalid range '{input}': {reason}"
  | config text => s!"Configuration error: {text}"
  | configValue key text => s!"Invalid configuration value for '{key}': {text}"
  | invalidFakePacketMode mode reason => s!"Incorrect fake packet mode '{mode}': {reason}"
  | unsupported feature => s!"Unsupported: {feature}"
  | noPortAvailable first last attempts =>
    s!"Failed to find an available random port in the range {first}-{last} " ++
      s!"after {attempts} attempts"
  | turnRelay server stage text => s!"TURN relay via '{server}' failed during {stage}: {text}"
  | invalidAddress address reason => s!"Invalid address '{address}': {reason}"
  | io error => s!"I/O error: {error.text}"
  | hexDecode error => s!"Hex decoding error: {error.message}"

/-- Whether an error is a fault of the configuration. -/
def isConfig : Error → Bool
  | invalidRange .. | config .. | configValue .. | invalidFakePacketMode .. | unsupported ..
  | hexDecode .. => true
  | noPortAvailable .. | turnRelay .. | invalidAddress .. | io .. => false

/-- Name the key whose value held a refused range. -/
def forKey (key : String) : Error → Error
  | invalidRange input reason => configValue key s!"invalid range '{input}': {reason}"
  | error => error

/-- The input or output error that stands for an error: itself where it is one, and otherwise
the wording under the kind that fits the fault. -/
def toIo : Error → IoError
  | io error => error
  | error@(noPortAvailable ..) => ⟨.addrInUse, error.message⟩
  | error => ⟨if error.isConfig then .invalidInput else .other, error.message⟩

end Error

end Outbound
