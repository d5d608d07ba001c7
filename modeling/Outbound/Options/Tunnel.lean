import Outbound.Error
import Outbound.Json.Codec

/-!
# Settings of a tunnel
-/
namespace Outbound

open Json (Codec Members)

/-- How connections are led through a tunnel. -/
structure TunnelOptions where
  /-- Whether a tunnel is used at all. -/
  enabled : Bool := false
  /-- The path requested of the tunnel's server. -/
  path : String := ""
  /-- The host named in the request. -/
  host : String := ""
  /-- The server name of the handshake. -/
  serverName : String := ""
  /-- Whether certificates go unchecked. -/
  insecure : Bool := false
  /-- The far end of the tunnel. -/
  target : String := ""
  deriving DecidableEq, Inhabited

namespace TunnelOptions

/-- The fields in order. -/
def names : List String := ["enabled", "path", "host", "server_name", "insecure", "target"]

/-- The members of the JSON form. -/
def members (options : TunnelOptions) : Members :=
  Members.write "enabled" .bool options.enabled ++
  Members.write "path" .text options.path ++
  Members.write "host" .text options.host ++
  Members.write "server_name" .text options.serverName ++
  Members.write "insecure" .bool options.insecure ++
  Members.write "target" .text options.target

/-- The JSON form. -/
def codec : Codec TunnelOptions where
  write options := .record options.members
  read value := do
    let members ← Members.of names value
    let enabled ← members.field "enabled" .bool false
    let path ← members.field "path" .text ""
    let host ← members.field "host" .text ""
    let serverName ← members.field "server_name" .text ""
    let insecure ← members.field "insecure" .bool false
    let target ← members.field "target" .text ""
    some { enabled, path, host, serverName, insecure, target }

/-- Refuse settings without a far end. -/
def validate (options : TunnelOptions) : Except Error Unit :=
  if options.target.isEmpty then .error (.configValue "tunnel.target" "missing tunnel target")
  else .ok ()

end TunnelOptions

end Outbound
