import Outbound.Tls.Record

/-!
# Inspecting a buffer

What opens a ClientHello is said of a header and a body, apart from any buffer (`OpensHello`). A
buffer is told to be such a record and what follows it just if it is one, and to be the front part
of one just if it ends within one and shows the type of the message (`inspect_exact`).
-/
namespace Outbound.Tls

/-- A record that opens a ClientHello: a whole record of handshake messages, which starts with the
header of a message of that type. -/
structure OpensHello (header : RecordHeader) (body : Bytes) : Prop where
  /-- The record holds handshake messages. -/
  handshake : header.contentType = 22
  /-- Its header states the length of the body. -/
  stated : body.length = header.length.toNat
  /-- The body has room for the header of a message. -/
  long : 4 ≤ body.length
  /-- The message is a ClientHello. -/
  hello : body.head? = some 1

/-- A buffer that has room for both headers and ends before the record that opens a ClientHello
with it. -/
def EndsWithin (buffer : Bytes) : Prop :=
  9 ≤ buffer.length ∧ ∃ header body, OpensHello header body ∧
    buffer <+: header.encode ++ body ∧ buffer ≠ header.encode ++ body

namespace RecordHeader

/-- A buffer of five octets or more starts with a header. -/
theorem exists_encode_append {buffer : Bytes} (long : 5 ≤ buffer.length) :
    ∃ (header : RecordHeader) (octets : Bytes), buffer = header.encode ++ octets := by
  match buffer, long with
  | _ :: _ :: _ :: _ :: _ :: _, _ => exact ⟨_, _, eq_append_of_parse rfl⟩

/-- A buffer starts with one header only. -/
theorem encode_append_inj {header header' : RecordHeader} {octets octets' : Bytes}
    (same : header.encode ++ octets = header'.encode ++ octets') :
    header = header' ∧ octets = octets' := by
  have parsed := congrArg parse same
  rw [parse_encode, parse_encode, Option.some_inj] at parsed
  subst parsed
  exact ⟨rfl, List.append_cancel_left same⟩

end RecordHeader

/-- Whether a header and the octets behind it show the start of a ClientHello. -/
def ShowsHello (header : RecordHeader) (octets : Bytes) : Prop :=
  header.contentType = 22 ∧ 4 ≤ header.length.toNat ∧ 4 ≤ octets.length ∧ octets.head? = some 1

instance (header : RecordHeader) (octets : Bytes) : Decidable (ShowsHello header octets) :=
  inferInstanceAs (Decidable (_ ∧ _))

/-- What a buffer that holds a header is told to be. -/
theorem inspect_encode_append (header : RecordHeader) (octets : Bytes) :
    inspect (header.encode ++ octets) =
      if ShowsHello header octets then
        if octets.length < header.length.toNat then .incomplete
        else .clientHello header (octets.take header.length.toNat)
          (octets.drop header.length.toNat)
      else .notClientHello := by
  have size : (header.encode ++ octets).length = 5 + octets.length := by
    rw [List.length_append, header.length_encode]
  have behind : (header.encode ++ octets).drop 5 = octets :=
    List.drop_left' header.length_encode
  have first : (header.encode ++ octets)[5]? = octets.head? := by
    rw [List.head?_eq_getElem?]
    exact List.getElem?_append_right (Nat.le_of_eq header.length_encode)
  simp only [inspect, RecordHeader.size, messageHeaderSize, handshakeContent, clientHelloType,
    size, behind, first, RecordHeader.parse_encode]
  by_cases shows : ShowsHello header octets
  · have ⟨handshake, stated, long, hello⟩ := shows
    have admitted : ¬ (header.contentType ≠ 22 ∨ header.length.toNat < 4 ∨
        octets.head? ≠ some 1) := by
      rintro (other | short | other)
      · exact other handshake
      · omega
      · exact other hello
    rw [if_neg (by omega), if_neg admitted, if_pos shows]
  · rw [if_neg shows]
    split
    · rfl
    · next long =>
      refine if_pos (Classical.byContradiction fun admitted => shows ?_)
      simp only [not_or, ne_eq, Classical.not_not] at admitted
      exact ⟨admitted.1, by omega, by omega, admitted.2.2⟩

variable {buffer octets body rest : Bytes} {header : RecordHeader}

/-- A buffer too short for a header opens nothing. -/
theorem inspect_of_short (short : buffer.length < 5) : inspect buffer = .notClientHello :=
  if_pos (Nat.lt_of_lt_of_le short (by decide))

/-- A record that opens a ClientHello shows the start of one if four octets that start like its body
are there. -/
theorem OpensHello.shows (opens : OpensHello header body) (long : 4 ≤ octets.length)
    (same : octets.head? = body.head?) : ShowsHello header octets :=
  ⟨opens.handshake, opens.stated ▸ opens.long, long, same.trans opens.hello⟩

/-- A record that opens a ClientHello is told whole, and what follows it. -/
theorem inspect_of_opensHello (opens : OpensHello header body) (rest : Bytes) :
    inspect (header.encode ++ (body ++ rest)) = .clientHello header body rest := by
  have size : (body ++ rest).length = body.length + rest.length := List.length_append
  have long := opens.long
  have stated := opens.stated
  have first : (body ++ rest).head? = body.head? := by
    rw [List.head?_append, opens.hello]
    rfl
  have shows := opens.shows (by omega) first
  rw [inspect_encode_append, if_pos shows, if_neg (by omega), ← stated, List.take_left,
    List.drop_left]

/-- A buffer that ends within such a record is told to. -/
theorem inspect_of_endsWithin (ends : EndsWithin buffer) : inspect buffer = .incomplete := by
  obtain ⟨long, header, body, opens, front, part⟩ := ends
  have headed : header.encode <+: buffer :=
    List.prefix_of_prefix_length_le (List.prefix_append ..) front
      (by rw [header.length_encode]; omega)
  obtain ⟨octets, rfl⟩ := headed
  rw [List.length_append, header.length_encode] at long
  have front : octets <+: body := (List.prefix_append_right_inj _).mp front
  have shorter : octets.length < body.length :=
    Nat.lt_of_le_of_ne front.length_le fun same =>
      part (congrArg (header.encode ++ ·) (front.eq_of_length same))
  have first : octets.head? = body.head? := by
    obtain ⟨more, rfl⟩ := front
    obtain ⟨octet, others, rfl⟩ := List.exists_cons_of_length_pos (show 0 < octets.length by omega)
    rfl
  have shows := opens.shows (by omega) first
  rw [inspect_encode_append, if_pos shows, if_pos (opens.stated ▸ shorter)]

/-- Octets that show the start of a ClientHello are the front part of a record that opens one. -/
theorem ShowsHello.endsWithin (shows : ShowsHello header octets)
    (short : octets.length < header.length.toNat) : EndsWithin (header.encode ++ octets) := by
  obtain ⟨handshake, stated, long, hello⟩ := shows
  -- Any octets can be what is missing.
  let missing := List.replicate (header.length.toNat - octets.length) (0 : UInt8)
  have size : (octets ++ missing).length = header.length.toNat := by
    rw [List.length_append, List.length_replicate]
    omega
  have opens : OpensHello header (octets ++ missing) :=
    ⟨handshake, size, by omega, by rw [List.head?_append, hello]; rfl⟩
  refine ⟨?_, header, octets ++ missing, opens, ?_, fun same => ?_⟩
  · rw [List.length_append, header.length_encode]
    omega
  · exact (List.prefix_append_right_inj _).mpr (List.prefix_append ..)
  · have whole := congrArg List.length (List.append_cancel_left same)
    omega

/-- Octets that show the start of a ClientHello and are not too few hold the record that opens
it. -/
theorem ShowsHello.opensHello (shows : ShowsHello header octets)
    (whole : header.length.toNat ≤ octets.length) :
    OpensHello header (octets.take header.length.toNat) := by
  obtain ⟨handshake, stated, long, hello⟩ := shows
  have size : (octets.take header.length.toNat).length = header.length.toNat :=
    List.length_take_of_le whole
  refine ⟨handshake, size, by omega, ?_⟩
  rw [List.head?_take, if_neg (by omega), hello]

/-- A buffer that is told to open a ClientHello is the record that opens it and what follows. -/
theorem opensHello_of_inspect (found : inspect buffer = .clientHello header body rest) :
    OpensHello header body ∧ buffer = header.encode ++ (body ++ rest) := by
  by_cases long : 5 ≤ buffer.length
  · obtain ⟨header, octets, rfl⟩ := RecordHeader.exists_encode_append long
    rw [inspect_encode_append] at found
    split at found
    case isTrue shows =>
      split at found
      · cases found
      · next whole =>
        cases found
        exact ⟨shows.opensHello (Nat.le_of_not_lt whole), by rw [List.take_append_drop]⟩
    case isFalse => cases found
  · rw [inspect_of_short (Nat.lt_of_not_le long)] at found
    cases found

/-- Such a buffer is the record's header, its body and what follows; the header states the length of
the body, which holds a message header. -/
theorem eq_of_inspect (found : inspect buffer = .clientHello header body rest) :
    buffer = header.encode ++ (body ++ rest) ∧ body.length = header.length.toNat ∧
      messageHeaderSize ≤ body.length := by
  obtain ⟨opens, whole⟩ := opensHello_of_inspect found
  exact ⟨whole, opens.stated, opens.long⟩

/-- A buffer that is told to end within such a record does. -/
theorem endsWithin_of_inspect (found : inspect buffer = .incomplete) : EndsWithin buffer := by
  by_cases long : 5 ≤ buffer.length
  · obtain ⟨header, octets, rfl⟩ := RecordHeader.exists_encode_append long
    rw [inspect_encode_append] at found
    split at found
    case isTrue shows =>
      split at found
      · next short => exact shows.endsWithin short
      · cases found
    case isFalse => cases found
  · rw [inspect_of_short (Nat.lt_of_not_le long)] at found
    cases found

/-- A buffer is a record that opens a ClientHello and what follows it in one way only. -/
theorem OpensHello.unique {header' : RecordHeader} {body' rest' : Bytes}
    (opens : OpensHello header body) (opens' : OpensHello header' body')
    (same : header.encode ++ (body ++ rest) = header'.encode ++ (body' ++ rest')) :
    header = header' ∧ body = body' ∧ rest = rest' := by
  obtain ⟨rfl, behind⟩ := RecordHeader.encode_append_inj same
  have sizes : body.length = body'.length := opens.stated.trans opens'.stated.symm
  exact ⟨rfl, List.append_inj behind sizes⟩

/-- Inspection is exact. A buffer is told to be a whole record that opens a ClientHello and what
follows it just if it is, which it is in one way at most; to end within such a record just if it
does; and to be neither just if it is neither. Every body of a ClientHello that a record can hold is
found behind the header written for it. -/
theorem inspect_exact :
    (∀ buffer header body rest, inspect buffer = .clientHello header body rest ↔
      OpensHello header body ∧ buffer = header.encode ++ (body ++ rest)) ∧
    (∀ header body rest header' body' rest', OpensHello header body → OpensHello header' body' →
      header.encode ++ (body ++ rest) = header'.encode ++ (body' ++ rest') →
      header = header' ∧ body = body' ∧ rest = rest') ∧
    (∀ buffer, inspect buffer = .incomplete ↔ EndsWithin buffer) ∧
    (∀ buffer, inspect buffer = .notClientHello ↔
      ¬ EndsWithin buffer ∧ ¬ ∃ header body rest,
        OpensHello header body ∧ buffer = header.encode ++ (body ++ rest)) ∧
    ∀ version body rest, 4 ≤ body.length → body.length ≤ 65535 → body.head? = some 1 →
      let header : RecordHeader := ⟨22, version, UInt16.ofNat body.length⟩
      inspect (header.encode ++ (body ++ rest)) = .clientHello header body rest := by
  have whole : ∀ buffer header body rest, inspect buffer = .clientHello header body rest ↔
      OpensHello header body ∧ buffer = header.encode ++ (body ++ rest) := by
    intro buffer header body rest
    constructor
    · exact opensHello_of_inspect
    · rintro ⟨opens, rfl⟩
      exact inspect_of_opensHello opens rest
  have part : ∀ buffer, inspect buffer = .incomplete ↔ EndsWithin buffer :=
    fun buffer => ⟨endsWithin_of_inspect, inspect_of_endsWithin⟩
  refine ⟨whole, fun _ _ _ _ _ _ => OpensHello.unique, part, fun buffer => ⟨?_, ?_⟩, ?_⟩
  · intro found
    constructor
    · rw [← part, found]
      exact fun same => by cases same
    · rintro ⟨header, body, rest, opens⟩
      rw [← whole, found] at opens
      cases opens
  · rintro ⟨notPart, notWhole⟩
    cases found : inspect buffer with
    | notClientHello => rfl
    | incomplete => exact absurd ((part buffer).mp found) notPart
    | clientHello header body rest =>
      exact absurd ⟨header, body, rest, (whole ..).mp found⟩ notWhole
  · intro version body rest long short hello header
    have stated : body.length = header.length.toNat :=
      (UInt16.toNat_ofNat_of_lt' (Nat.lt_succ_of_le short)).symm
    exact inspect_of_opensHello ⟨rfl, stated, long, hello⟩ rest

end Outbound.Tls
