import Outbound.Error
import Outbound.Options.Server

/-!
# Settings of a relay server
-/
namespace Outbound

open Json (Codec Members Value)

/-- A relay server and the credentials for it. -/
structure TurnOptions where
  /-- The server. -/
  server : ServerOptions := {}
  /-- The user name of the credentials. -/
  username : String := ""
  /-- The password of the credentials. -/
  password : String := ""
  /-- The realm of the credentials. -/
  realm : String := ""
  deriving DecidableEq, Inhabited

namespace TurnOptions

/-- The fields, those of the server among them. -/
def names : List String := ServerOptions.names ++ ["username", "password", "realm"]

/-- How deep a document of these settings may be nested. -/
def maxDepth : Nat := 127

/-- The members of the JSON form. -/
def members (options : TurnOptions) : Members :=
  options.server.members ++
  Members.write "username" .text options.username ++
  Members.write "password" .text options.password ++
  Members.write "realm" .text options.realm

/-- The JSON form, in which the fields of the server stand beside the others. Since fields of
two kinds are mixed, only an object is read, and all of it has to be sound. -/
def codec : Codec TurnOptions where
  write options := .record options.members
  read
    | .object found => do
      let value := Value.object found
      if !value.isSound || maxDepth < value.depth then none
      else do
        let members ← Members.of names value
        let server ← ServerOptions.ofMembers members
        let username ← members.field "username" .text ""
        let password ← members.field "password" .text ""
        let realm ← members.field "realm" .text ""
        some { server, username, password, realm }
    | _ => none

/-- Refuse settings that name no server or no port. -/
def validate (options : TurnOptions) : Except Error Unit :=
  if !options.server.isSet then .error (.configValue "turn_relay.server" "missing TURN server")
  else if options.server.port = 0 then
    .error (.configValue "turn_relay.server_port" "port must be non-zero")
  else .ok ()

end TurnOptions

end Outbound
