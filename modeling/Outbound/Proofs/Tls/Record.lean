import Outbound.Proofs.Tls.Plan

/-!
# Reading records back

A reader of records beside their writer: it takes a header and as many octets as the header
states. Records written one after another are read back in order, whatever follows them, as long
as no payload is longer than a header can state.
-/
namespace Outbound.Tls

/-- A record: its header and the octets behind it. -/
structure Record where
  /-- The header. -/
  header : RecordHeader
  /-- The octets behind the header. -/
  payload : Bytes
  deriving DecidableEq

namespace Record

/-- The octets of a record. -/
def encode (record : Record) : Bytes := record.header.encode ++ record.payload

/-- The record at the front of a buffer, with as much payload as its header states, and what
follows it. -/
def read (buffer : Bytes) : Option (Record × Bytes) := do
  let header ← RecordHeader.parse buffer
  let octets := buffer.drop RecordHeader.size
  if octets.length < header.length.toNat then none
  else some (⟨header, octets.take header.length.toNat⟩, octets.drop header.length.toNat)

/-- So many records from the front of a buffer, and what follows them. -/
def readMany : Nat → Bytes → Option (List Record × Bytes)
  | 0, buffer => some ([], buffer)
  | count + 1, buffer => do
    let (record, buffer) ← read buffer
    let (records, buffer) ← readMany count buffer
    some (record :: records, buffer)

/-- Whether the header of a record states the length of its payload. -/
def Sized (record : Record) : Prop := record.header.length.toNat = record.payload.length

/-- A record whose header states its length is read back, whatever follows it. -/
theorem read_encode {record : Record} (sized : record.Sized) (rest : Bytes) :
    read (record.encode ++ rest) = some (record, rest) := by
  have octets : (record.encode ++ rest).drop RecordHeader.size = record.payload ++ rest := by
    rw [encode, List.append_assoc, RecordHeader.size, ← record.header.length_encode,
      List.drop_left]
  have stated : record.header.length.toNat = record.payload.length := sized
  have enough : ¬ (record.payload ++ rest).length < record.header.length.toNat := by
    rw [stated, List.length_append]
    omega
  have header : RecordHeader.parse (record.encode ++ rest) = some record.header := by
    rw [encode, List.append_assoc, RecordHeader.parse_encode]
  simp only [read, header, bind, Option.bind, octets, if_neg enough]
  rw [stated, List.take_left, List.drop_left]

/-- Records whose headers state their lengths are read back in order, whatever follows them. -/
theorem readMany_encode {records : List Record} (sized : ∀ record ∈ records, record.Sized)
    (rest : Bytes) :
    readMany records.length ((records.map encode).flatten ++ rest) = some (records, rest) := by
  induction records with
  | nil => rfl
  | cons record records ih =>
    obtain ⟨first, others⟩ := List.forall_mem_cons.mp sized
    simp only [List.length_cons, List.map_cons, List.flatten_cons, List.append_assoc, readMany,
      read_encode first, bind, Option.bind, ih others]

end Record

/-- The header written for a payload states its length, unless it is too long. -/
theorem RecordHeader.toNat_length_forPayload (header : RecordHeader) {payload : Bytes}
    (fits : payload.length < 65536) :
    (header.forPayload payload).length.toNat = payload.length := by
  have least : min payload.length 65535 = payload.length := by omega
  rw [forPayload, withLength, least, UInt16.toNat_ofNat_of_lt' fits]

end Outbound.Tls
