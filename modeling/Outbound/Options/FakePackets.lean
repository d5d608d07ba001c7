import Outbound.Json.Codec

/-!
# Settings of filler packets
-/
namespace Outbound

open Json (Codec Members)

/-- How packets of a WireGuard peer are disguised. -/
structure FakePacketOptions where
  /-- Fillers before a handshake, a range; empty for none. -/
  count : String := ""
  /-- Their sizes, a range of bytes. -/
  size : String := ""
  /-- The pauses between them, a range of milliseconds. -/
  delay : String := ""
  /-- The name of a mode. -/
  mode : String := ""
  deriving DecidableEq, Inhabited

namespace FakePacketOptions

/-- The fields in order. -/
def names : List String :=
  ["fake_packets", "fake_packets_size", "fake_packets_delay", "fake_packets_mode"]

/-- The members of the JSON form. -/
def members (options : FakePacketOptions) : Members :=
  Members.write "fake_packets" .text options.count ++
  Members.write "fake_packets_size" .text options.size ++
  Members.write "fake_packets_delay" .text options.delay ++
  Members.write "fake_packets_mode" .text options.mode

/-- The JSON form. -/
def codec : Codec FakePacketOptions where
  write options := .record options.members
  read value := do
    let members ← Members.of names value
    let count ← members.field "fake_packets" .text ""
    let size ← members.field "fake_packets_size" .text ""
    let delay ← members.field "fake_packets_delay" .text ""
    let mode ← members.field "fake_packets_mode" .text ""
    some { count, size, delay, mode }

end FakePacketOptions

end Outbound
