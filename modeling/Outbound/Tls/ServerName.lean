import Outbound.Tls.Record
import Outbound.Tls.Span

/-!
# The host name of a ClientHello

`locate` walks a handshake message down to the host name it carries. Each length-prefixed part
is read through a window of its own, which knows where it stands in the message, so a part can
neither reach past its own end nor lose its place.
-/
namespace Outbound.Tls.ServerName

/-- A part of the message, named when it is cut short. -/
inductive Field where
  | handshakeType | handshakeLength | handshakeBody | clientVersion | random
  | sessionIdLength | sessionId | cipherSuitesLength | cipherSuites
  | compressionMethodsLength | compressionMethods | extensionsLength | extensions
  | extensionType | extensionLength | extensionData | serverNameExtension
  | serverNameListLength | serverNameList | serverNameType | serverNameLength | serverName
  | hostName
  deriving DecidableEq, Inhabited

/-- The name of a part. -/
def Field.text : Field → String
  | handshakeType => "handshake type"
  | handshakeLength => "handshake length"
  | handshakeBody => "handshake body"
  | clientVersion => "client version"
  | random => "random"
  | sessionIdLength => "session id length"
  | sessionId => "session id"
  | cipherSuitesLength => "cipher suites length"
  | cipherSuites => "cipher suites"
  | compressionMethodsLength => "compression methods length"
  | compressionMethods => "compression methods"
  | extensionsLength => "extensions length"
  | extensions => "extensions"
  | extensionType => "extension type"
  | extensionLength => "extension length"
  | extensionData => "extension data"
  | serverNameExtension => "server_name extension"
  | serverNameListLength => "server name list length"
  | serverNameList => "server name list"
  | serverNameType => "server name type"
  | serverNameLength => "server name length"
  | serverName => "server name"
  | hostName => "host name"

/-- Why no host name is found. -/
inductive Fault where
  /-- A part at a place of the message needs more octets than its window has left. -/
  | truncated (field : Field) (offset needed available : Nat)
  /-- The message is of another type. -/
  | notClientHello (type : UInt8)
  /-- No host name is carried. -/
  | noServerName
  /-- The host name carried is empty. -/
  | emptyServerName
  deriving DecidableEq

/-- The wording of a fault. -/
def Fault.message : Fault → String
  | truncated field offset needed available =>
    s!"truncated {field.text}: need {needed} bytes at offset {offset}, have {available}"
  | notClientHello type => s!"handshake type {type} is not ClientHello"
  | noServerName => "no server_name extension"
  | emptyServerName => "empty server name"

/-- Octets that are still to be read, and the place of the first of them in the message. -/
structure Window where
  /-- The place of the first octet. -/
  offset : Nat
  /-- The octets. -/
  bytes : Bytes
  deriving DecidableEq, Inhabited

namespace Window

/-- The window past its first `count` octets. -/
def advance (window : Window) (count : Nat) : Window :=
  ⟨window.offset + count, window.bytes.drop count⟩

/-- The fault of a part that needs `needed` octets. -/
def short (window : Window) (field : Field) (needed : Nat) : Fault :=
  .truncated field window.offset needed window.bytes.length

/-- Pass over `count` octets. -/
def skip (window : Window) (field : Field) (count : Nat) : Except Fault Window :=
  if window.bytes.length < count then .error (window.short field count)
  else .ok (window.advance count)

/-- Split off a window of `count` octets. -/
def part (window : Window) (field : Field) (count : Nat) : Except Fault (Window × Window) :=
  if window.bytes.length < count then .error (window.short field count)
  else .ok (⟨window.offset, window.bytes.take count⟩, window.advance count)

/-- A number of one octet. -/
def word8 (window : Window) (field : Field) : Except Fault (UInt8 × Window) :=
  match window.bytes with
  | a :: rest => .ok (a, ⟨window.offset + 1, rest⟩)
  | _ => .error (window.short field 1)

/-- A number of two octets. -/
def word16 (window : Window) (field : Field) : Except Fault (Nat × Window) :=
  match window.bytes with
  | a :: b :: rest => .ok ((Bytes.word16 a b).toNat, ⟨window.offset + 2, rest⟩)
  | _ => .error (window.short field 2)

/-- A number of three octets. -/
def word24 (window : Window) (field : Field) : Except Fault (Nat × Window) :=
  match window.bytes with
  | a :: b :: c :: rest => .ok (Bytes.word24 a b c, ⟨window.offset + 3, rest⟩)
  | _ => .error (window.short field 3)

end Window

/-- The type of an extension that carries server names. -/
def extensionType : Nat := 0

/-- The type of a server name that is a host name. -/
def hostNameType : UInt8 := 0

/-- The first host name of a list of server names. The first argument bounds the entries; an
entry has at least three octets. -/
def inList : Nat → Window → Except Fault Span
  | 0, _ => .error .noServerName
  | entries + 1, list =>
    if list.bytes = [] then .error .noServerName
    else do
      let (type, list) ← list.word8 .serverNameType
      let (length, list) ← list.word16 .serverNameLength
      if type ≠ hostNameType then inList entries (← list.skip .serverName length)
      else do
        let _ ← list.skip .hostName length
        if length = 0 then .error .emptyServerName
        else .ok ⟨list.offset, list.offset + length⟩

/-- The host name of an extension that carries server names. -/
def inExtension (data : Window) : Except Fault Span := do
  let (length, data) ← data.word16 .serverNameListLength
  let (list, _) ← data.part .serverNameList length
  inList list.bytes.length list

/-- The host name of the first extension that carries server names. The first argument bounds
the extensions; an extension has at least four octets. -/
def inExtensions : Nat → Window → Except Fault Span
  | 0, _ => .error .noServerName
  | extensions + 1, block =>
    if block.bytes = [] then .error .noServerName
    else do
      let (type, block) ← block.word16 .extensionType
      let (length, block) ← block.word16 .extensionLength
      if type ≠ extensionType then inExtensions extensions (← block.skip .extensionData length)
      else do
        let (data, _) ← block.part .serverNameExtension length
        inExtension data

/-- The host name of the parts of a message after its length. -/
def inMessage (message : Window) : Except Fault Span := do
  let message ← message.skip .clientVersion 2
  let message ← message.skip .random 32
  let (length, message) ← message.word8 .sessionIdLength
  let message ← message.skip .sessionId length.toNat
  let (length, message) ← message.word16 .cipherSuitesLength
  let message ← message.skip .cipherSuites length
  let (length, message) ← message.word8 .compressionMethodsLength
  let message ← message.skip .compressionMethods length.toNat
  if message.bytes = [] then .error .noServerName
  else do
    let (length, message) ← message.word16 .extensionsLength
    let (block, _) ← message.part .extensions length
    inExtensions block.bytes.length block

/-- The span of the host name in a handshake message. -/
def locate (body : Bytes) : Except Fault Span := do
  let (type, window) ← (Window.mk 0 body).word8 .handshakeType
  if type ≠ clientHelloType then .error (.notClientHello type)
  else do
    let (length, window) ← window.word24 .handshakeLength
    let (message, _) ← window.part .handshakeBody length
    inMessage message

end Outbound.Tls.ServerName
