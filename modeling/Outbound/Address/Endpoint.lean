import Outbound.Address.Ip

/-!
# Endpoints

An endpoint is an address and a port, written `1.2.3.4:80` or `[::1]:80`; between the brackets
a `%` may set off the number of a scope.
-/
namespace Outbound

/-- An address and a port. -/
structure Endpoint where
  /-- The address. -/
  ip : Ip
  /-- The port. -/
  port : UInt16
  /-- The scope of an address of the sixth version; zero when there is none. -/
  scope : UInt32 := 0
  deriving DecidableEq

namespace Endpoint

/-- The characters of an endpoint. -/
def characters (endpoint : Endpoint) : List Char :=
  match endpoint.ip with
  | .v4 address => address.characters ++ ':' :: Decimal.digits endpoint.port.toNat
  | .v6 address =>
    '[' :: address.characters ++
      (if endpoint.scope = 0 then [] else '%' :: Decimal.digits endpoint.scope.toNat) ++
      ']' :: ':' :: Decimal.digits endpoint.port.toNat

/-- The text of an endpoint. -/
def text (endpoint : Endpoint) : String := String.ofList endpoint.characters

end Endpoint

namespace Address.Reader

/-- A colon and a port. -/
def port (text : List Char) : Option (UInt16 × List Char) := do
  let rest ← expect ':' text
  let (value, rest) ← number decimal? 10 rest.length 65536 rest
  some (UInt16.ofNat value, rest)

/-- A percent sign and the number of a scope, or nothing. -/
def scope (text : List Char) : UInt32 × List Char :=
  match expect '%' text with
  | none => (0, text)
  | some rest =>
    match number decimal? 10 rest.length UInt32.size rest with
    | some (value, rest) => (UInt32.ofNat value, rest)
    | none => (0, text)

/-- An endpoint of the fourth version. -/
def endpoint4 (text : List Char) : Option (Endpoint × List Char) := do
  let (address, rest) ← ipv4 text
  let (port, rest) ← port rest
  some (⟨.v4 address, port, 0⟩, rest)

/-- An endpoint of the sixth version. -/
def endpoint6 (text : List Char) : Option (Endpoint × List Char) := do
  let (address, rest) ← expect '[' text >>= ipv6
  let (scope, rest) := scope rest
  let (port, rest) ← expect ']' rest >>= port
  some (⟨.v6 address, port, scope⟩, rest)

end Address.Reader

/-- The endpoint that a text spells. -/
def Endpoint.parse (text : String) : Option Endpoint :=
  match Address.Reader.whole Address.Reader.endpoint4 text with
  | some endpoint => some endpoint
  | none => Address.Reader.whole Address.Reader.endpoint6 text

end Outbound
