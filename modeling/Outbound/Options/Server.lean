import Outbound.Address.Endpoint
import Outbound.Json.Codec

/-!
# Settings of a server

A server is a host name or an address, and a port. `ServerOptions.address` writes both as one
text, which spells an endpoint whenever the server is an address.
-/
namespace Outbound

open Json (Codec Members)

/-- A server and its port. -/
structure ServerOptions where
  /-- A host name or an address. -/
  server : String := ""
  /-- The port. -/
  port : UInt16 := 0
  deriving DecidableEq, Inhabited

namespace ServerOptions

/-- The fields in order. -/
def names : List String := ["server", "server_port"]

/-- The members of the JSON form. -/
def members (options : ServerOptions) : Members :=
  Members.write "server" .text options.server ++
  Members.write "server_port" .word16 options.port

/-- The settings that members hold. -/
def ofMembers (members : Members) : Option ServerOptions := do
  let server ← members.field "server" .text ""
  let port ← members.field "server_port" .word16 0
  some { server, port }

/-- The JSON form. -/
def codec : Codec ServerOptions where
  write options := .record options.members
  read value := do ofMembers (← Members.of names value)

/-- Host and port as one text: an address of the sixth version in its customary form between
brackets, anything else as it is. -/
def address (options : ServerOptions) : String :=
  match Ip.parse options.server with
  | some (.v6 ip) => "[" ++ ip.text ++ "]:" ++ Decimal.text options.port.toNat
  | _ => options.server ++ ":" ++ Decimal.text options.port.toNat

/-- Whether a server is named at all. -/
def isSet (options : ServerOptions) : Bool := !options.server.isEmpty

end ServerOptions

end Outbound
