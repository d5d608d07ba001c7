import Outbound.Address.Ip

/-!
# Host names for the handshake

The server name of a handshake is a host name and never an address. `sni?` takes the host name
out of a server's text.
-/
namespace Outbound.Tls.HostName

/-- The text between one pair of brackets, if it stands in one. -/
def unbracketed (name : List Char) : List Char :=
  match name with
  | '[' :: inner => if inner.getLast? = some ']' then inner.dropLast else name
  | _ => name

/-- The text before a zone. -/
def unzoned (name : List Char) : List Char := name.takeWhile (· != '%')

/-- The text without dots at its end. -/
def withoutFinalDots (name : List Char) : List Char :=
  (name.reverse.dropWhile (· == '.')).reverse

/-- The host name fit for a handshake: brackets are taken off, an address is refused with or
without a zone, and dots at the end are dropped. -/
def sni? (name : String) : Option String :=
  let host := unbracketed name.toList
  if (Ip.parse (String.ofList (unzoned host))).isSome then none
  else
    match withoutFinalDots host with
    | [] => none
    | host => some (String.ofList host)

end Outbound.Tls.HostName
