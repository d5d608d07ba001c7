import Outbound.Error

/-!
# Modes of filler packets

A mode fixes the octets that filler packets may start with, and whether genuine packets get such
an octet as well. Six modes have names; any other is spelled by its octets in hexadecimal after
an `h`, or after a `g` if genuine packets are changed.
-/
namespace Outbound.WireGuard

/-- A mode with a name. -/
inductive NamedMode where
  /-- Any octet, genuine packets changed. -/
  | m1
  /-- Any octet, genuine packets left alone. -/
  | m2
  /-- Octets that look like another datagram protocol, genuine packets changed. -/
  | m3
  /-- The octets of `m3`, genuine packets left alone. -/
  | m4
  /-- Octets of long headers, genuine packets changed. -/
  | m5
  /-- Octets of short headers, genuine packets left alone. -/
  | m6
  deriving DecidableEq, Inhabited

namespace NamedMode

/-- The octets that packets may start with; none of them stands for all. -/
def header : NamedMode → Bytes
  | m1 | m2 => []
  | m3 | m4 => [0xDC, 0xDE, 0xD3, 0xD9, 0xD0, 0xEC, 0xEE, 0xE3]
  | m5 => [0xC0, 0xC2, 0xC3, 0xC4, 0xC9, 0xCB, 0xCC, 0xCD, 0xCE, 0xCF]
  | m6 => [0x40, 0x42, 0x43, 0x44, 0x49, 0x4B, 0x4C, 0x4D, 0x4E, 0x4F]

/-- Whether genuine packets are changed. -/
def modifies : NamedMode → Bool
  | m1 | m3 | m5 => true
  | m2 | m4 | m6 => false

/-- The name of a mode. -/
def name : NamedMode → String
  | m1 => "m1"
  | m2 => "m2"
  | m3 => "m3"
  | m4 => "m4"
  | m5 => "m5"
  | m6 => "m6"

/-- The mode of a name in lower case; no name at all is the first. -/
def ofName? (name : List Char) : Option NamedMode :=
  match name with
  | [] => some m1
  | ['m', '1'] => some m1
  | ['m', '2'] => some m2
  | ['m', '3'] => some m3
  | ['m', '4'] => some m4
  | ['m', '5'] => some m5
  | ['m', '6'] => some m6
  | _ => none

end NamedMode

/-- How packets are disguised. -/
inductive Mode where
  /-- By a mode with a name. -/
  | named (mode : NamedMode)
  /-- With given octets. -/
  | custom (header : Bytes) (modify : Bool)
  deriving DecidableEq

namespace Mode

instance : Inhabited Mode := ⟨named .m1⟩

/-- The octets that packets may start with; none of them stands for all. -/
def header : Mode → Bytes
  | named mode => mode.header
  | custom header _ => header

/-- Whether genuine packets are changed. -/
def modifies : Mode → Bool
  | named mode => mode.modifies
  | custom _ modify => modify

/-- The text of a mode. -/
def text : Mode → String
  | named mode => mode.name
  | custom header modify => String.ofList ((if modify then 'g' else 'h') :: Hex.digits header)

/-- Why a text spells no mode. -/
inductive Fault where
  /-- It is no name and starts with neither letter. -/
  | unknown
  /-- What follows the letter is not hexadecimal. -/
  | digits (error : HexError)
  deriving DecidableEq

/-- The wording of a fault. -/
def Fault.message : Fault → String
  | unknown => "expected m1-m6, h<hex> or g<hex>"
  | digits error => error.message

/-- The octets of a custom mode; underscores between digits are passed over. -/
def readHeader (digits : List Char) : Except Fault Bytes :=
  (Hex.decodeChars (digits.filter (· != '_'))).mapError .digits

/-- A mode from its characters, in either case. -/
def read (characters : List Char) : Except Fault Mode :=
  let lower := characters.map Char.toLower
  match NamedMode.ofName? lower with
  | some mode => .ok (named mode)
  | none =>
    match lower with
    | 'h' :: digits => (readHeader digits).map (custom · false)
    | 'g' :: digits => (readHeader digits).map (custom · true)
    | _ => .error .unknown

/-- A mode from its text. The error quotes the whole text. -/
def parse (text : String) : Except Error Mode :=
  (read text.toList).mapError fun fault => .invalidFakePacketMode text fault.message

end Mode

end Outbound.WireGuard
