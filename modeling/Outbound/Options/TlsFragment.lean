import Outbound.Json.Codec

/-!
# Settings of handshake fragmenting
-/
namespace Outbound

open Json (Codec Members)

/-- How the first handshake message of a stream is cut. -/
structure TlsFragmentOptions where
  /-- Whether it is cut at all. -/
  enabled : Bool := false
  /-- The sizes of pieces, a range of bytes. -/
  size : String := ""
  /-- The pauses between pieces, a range of milliseconds. -/
  sleep : String := ""
  /-- Whether one cut falls inside the host name. -/
  sniSplit : Bool := true
  deriving DecidableEq, Inhabited

namespace TlsFragmentOptions

/-- The fields in order. -/
def names : List String := ["enabled", "size", "sleep", "sni_split"]

/-- The members of the JSON form. -/
def members (options : TlsFragmentOptions) : Members :=
  Members.write "enabled" .bool options.enabled ++
  Members.write "size" .text options.size ++
  Members.write "sleep" .text options.sleep ++
  Members.write "sni_split" .bool options.sniSplit

/-- The JSON form. -/
def codec : Codec TlsFragmentOptions where
  write options := .record options.members
  read value := do
    let members ← Members.of names value
    let enabled ← members.field "enabled" .bool false
    let size ← members.field "size" .text ""
    let sleep ← members.field "sleep" .text ""
    let sniSplit ← members.field "sni_split" .bool true
    some { enabled, size, sleep, sniSplit }

end TlsFragmentOptions

end Outbound
