import Outbound.Options.FakePackets
import Outbound.Range
import Outbound.WireGuard.Message
import Outbound.WireGuard.Mode

/-!
# Disguised packets

A disguise writes the reserved octets of a packet and, in some modes, replaces its type octet;
`restore` undoes both at a peer that shares the policy. Packets of 64 octets keep their type
octet, since their size tells two kinds apart no better. Fillers are random but for their first
octet.
-/
namespace Outbound.WireGuard

/-- The three octets after the type octet. -/
structure Reserved where
  (a b c : UInt8)
  deriving DecidableEq, Inhabited

/-- The octets in order. -/
def Reserved.bytes (reserved : Reserved) : Bytes := [reserved.a, reserved.b, reserved.c]

/-- How packets of a peer are disguised. -/
structure Policy where
  /-- Fillers before a handshake. -/
  count : Range
  /-- Their sizes, in octets. -/
  size : Range
  /-- The pauses between them, in milliseconds. -/
  delay : Range
  /-- What packets start with. -/
  mode : Mode
  deriving DecidableEq

namespace Policy

/-- The size of fillers when none is given. -/
def defaultSize : Range := ⟨40, 100, by decide⟩

/-- The pause between fillers when none is given. -/
def defaultDelay : Range := ⟨10, 50, by decide⟩

/-- The range of a key, or a default for an empty text. -/
def rangeOr (text : String) (absent : Range) (key : String) : Except Error Range :=
  if text.isEmpty then .ok absent else (Range.parse text).mapError (Error.forKey key)

/-- The policy of some settings. The mode is read first; without a count, the ranges are not
looked at. -/
def ofOptions (options : FakePacketOptions) : Except Error Policy := do
  let mode ← Mode.parse options.mode
  if options.count.isEmpty then
    .ok { count := .fixed 0, size := .fixed 0, delay := .fixed 0, mode }
  else do
    let count ← (Range.parse options.count).mapError (Error.forKey "fake_packets")
    let size ← rangeOr options.size defaultSize "fake_packets_size"
    let delay ← rangeOr options.delay defaultDelay "fake_packets_delay"
    .ok { count, size, delay, mode }

/-- Whether fillers are sent at all. -/
def sendsFillers (policy : Policy) : Bool := !policy.count.isZero

/-- An octet to start a packet with. -/
def lead (policy : Policy) (entropy : Entropy) : UInt8 × Entropy :=
  entropy.pick policy.mode.header

/-- A filler of a drawn size, of at least one octet. -/
def filler (policy : Policy) (entropy : Entropy) : Bytes × Entropy :=
  let (size, entropy) := policy.size.draw entropy
  let (body, entropy) := entropy.bytes (max 1 size - 1)
  let (first, entropy) := policy.lead entropy
  (first :: body, entropy)

/-- Write the reserved octets of a packet that has room for them. -/
def mark (reserved : Reserved) : Bytes → Bytes
  | type :: _ :: _ :: _ :: rest => type :: (reserved.bytes ++ rest)
  | packet => packet

/-- Whether the type octet of a packet of this size is replaced. -/
def replacesType (policy : Policy) (size : Nat) : Bool :=
  policy.mode.modifies && size != cookieReplySize

/-- Make a genuine packet ready to be sent. -/
def disguise (policy : Policy) (reserved : Reserved) (packet : Bytes) (entropy : Entropy) :
    Bytes × Entropy :=
  match mark reserved packet with
  | [] => ([], entropy)
  | type :: rest =>
    if policy.replacesType packet.length then
      let (first, entropy) := policy.lead entropy
      (first :: rest, entropy)
    else (type :: rest, entropy)

/-- The kind of a packet as sent. -/
def recognise (policy : Policy) (packet : Bytes) : Option MessageType :=
  if policy.replacesType packet.length then classifyBySize packet.length else classify packet

/-- The genuine packet behind a disguise, and its kind; nothing for a filler or any other
datagram. -/
def restore (policy : Policy) (packet : Bytes) : Option (MessageType × Bytes) :=
  (policy.recognise packet).map fun type => (type, type.byte :: 0 :: 0 :: 0 :: packet.drop 4)

end Policy

end Outbound.WireGuard
