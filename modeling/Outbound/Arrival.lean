import Outbound.Address.Endpoint
import Outbound.Bytes
import Outbound.Io

/-!
# Arrivals

What a datagram socket receives next: a datagram and who sent it, or an error.
-/
namespace Outbound

/-- What a receive finds. -/
inductive Arrival where
  /-- A datagram. -/
  | datagram (bytes : Bytes) (source : Endpoint)
  /-- The receive fails. -/
  | failure (error : IoError)
  deriving DecidableEq

end Outbound
