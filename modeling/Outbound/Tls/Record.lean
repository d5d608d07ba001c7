import Outbound.Bytes

/-!
# Records

A record is a header of five octets and a payload of the length it states. `inspect` decides
whether a buffer starts with a complete record that opens a ClientHello.
-/
namespace Outbound.Tls

/-- The header of a record. -/
structure RecordHeader where
  /-- What the payload is. -/
  contentType : UInt8
  /-- The protocol version. -/
  version : UInt16
  /-- The length of the payload. -/
  length : UInt16
  deriving DecidableEq, Inhabited

namespace RecordHeader

/-- Octets of a header. -/
def size : Nat := 5

/-- The header at the front of a buffer. -/
def parse : Bytes → Option RecordHeader
  | contentType :: v :: v' :: n :: n' :: _ =>
    some ⟨contentType, Bytes.word16 v v', Bytes.word16 n n'⟩
  | _ => none

/-- The octets of a header. -/
def encode (header : RecordHeader) : Bytes :=
  header.contentType :: (Bytes.word16Bytes header.version ++ Bytes.word16Bytes header.length)

/-- The header with another length. -/
def withLength (header : RecordHeader) (length : UInt16) : RecordHeader := { header with length }

/-- The header of a payload: the length it has, or the greatest that can be stated. -/
def forPayload (header : RecordHeader) (payload : Bytes) : RecordHeader :=
  header.withLength (UInt16.ofNat (min payload.length 65535))

/-- A header has five octets. -/
@[simp] theorem length_encode (header : RecordHeader) : header.encode.length = 5 := rfl

/-- Reading the octets of a header, whatever follows them, gives the header. -/
theorem parse_encode (header : RecordHeader) (rest : Bytes) :
    parse (header.encode ++ rest) = some header := by
  simp [parse, encode, Bytes.word16Bytes, Bytes.word16_word16Bytes]

/-- A buffer that holds a header starts with its octets. -/
theorem eq_append_of_parse {buffer : Bytes} {header : RecordHeader}
    (h : parse buffer = some header) : buffer = header.encode ++ buffer.drop 5 := by
  match buffer, h with
  | _ :: _ :: _ :: _ :: _ :: rest, h =>
    cases h
    simp [encode, Bytes.word16Bytes_word16]

end RecordHeader

/-- The content type of handshake messages. -/
def handshakeContent : UInt8 := 22

/-- The type of a ClientHello among handshake messages. -/
def clientHelloType : UInt8 := 1

/-- The octets that open a handshake message: its type and its length. -/
def messageHeaderSize : Nat := 4

/-- What a buffer starts with. -/
inductive Inspection where
  /-- No record that opens a ClientHello. -/
  | notClientHello
  /-- The front part of such a record. -/
  | incomplete
  /-- Such a record, whole, and what follows it. -/
  | clientHello (header : RecordHeader) (body rest : Bytes)
  deriving DecidableEq

/-- What a buffer starts with. -/
def inspect (buffer : Bytes) : Inspection :=
  if buffer.length < RecordHeader.size + messageHeaderSize then .notClientHello
  else
    match RecordHeader.parse buffer with
    | none => .notClientHello
    | some header =>
      if header.contentType ≠ handshakeContent ∨ header.length.toNat < messageHeaderSize ∨
          buffer[RecordHeader.size]? ≠ some clientHelloType then .notClientHello
      else
        let payload := buffer.drop RecordHeader.size
        if payload.length < header.length.toNat then .incomplete
        else .clientHello header (payload.take header.length.toNat)
          (payload.drop header.length.toNat)

end Outbound.Tls
