import Outbound.Bytes

/-!
# Messages of WireGuard

A message starts with a type octet and three reserved ones. Handshake messages have fixed sizes;
transport data has 32 octets and any number of blocks of 16. `classify` trusts the type octet
if the size agrees, `classifyBySize` knows the size alone.
-/
namespace Outbound.WireGuard

/-- The kind of a message. -/
inductive MessageType where
  /-- The opening of a handshake. -/
  | initiation
  /-- The answer to it. -/
  | response
  /-- The answer of a host under load. -/
  | cookieReply
  /-- Data. -/
  | transport
  deriving DecidableEq, Inhabited

namespace MessageType

/-- The kind that a type octet names. -/
def ofByte? (byte : UInt8) : Option MessageType :=
  if byte = 1 then some initiation
  else if byte = 2 then some response
  else if byte = 3 then some cookieReply
  else if byte = 4 then some transport
  else none

/-- The type octet of a kind. -/
def byte : MessageType → UInt8
  | initiation => 1
  | response => 2
  | cookieReply => 3
  | transport => 4

/-- The name of a kind. -/
def name : MessageType → String
  | initiation => "Initiation"
  | response => "Response"
  | cookieReply => "CookieReply"
  | transport => "Transport"

/-- Whether a message of a kind can have so many octets. -/
def sizeMatches : MessageType → Nat → Bool
  | initiation, size => size == 148
  | response, size => size == 92
  | cookieReply, size => size == 64
  | transport, size => 32 ≤ size && size % 16 == 0

/-- The type octet of a kind names the kind. -/
@[simp] theorem ofByte?_byte (type : MessageType) : ofByte? type.byte = some type := by
  cases type <;> rfl

end MessageType

/-- The size of a cookie reply, which is also one of transport data. -/
def cookieReplySize : Nat := 64

/-- The kind of a message by its type octet, if the size agrees. -/
def classify : Bytes → Option MessageType
  | [] => none
  | packet@(first :: _) =>
    (MessageType.ofByte? first).filter fun type => type.sizeMatches packet.length

/-- The kind of a message by its size. The size that two kinds share names neither. -/
def classifyBySize (size : Nat) : Option MessageType :=
  if size = 148 then some .initiation
  else if size = 92 then some .response
  else if size = cookieReplySize then none
  else if MessageType.transport.sizeMatches size then some .transport
  else none

end Outbound.WireGuard
