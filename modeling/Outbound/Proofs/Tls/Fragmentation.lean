import Outbound.Proofs.Tls.ClientHello
import Outbound.Proofs.Tls.Inspection
import Outbound.Proofs.Tls.Record
import Outbound.Tls.Emission

/-!
# What an emission puts on the wire

The records of an emission, read back one by one, are the cut record and nothing else: each is a
record of the same type and version that states its own length, and their payloads join up to
the message. When cuts are aligned with the host name, the name is `Severed`: two records share
it between them, and neither carries anything else.
-/
namespace Outbound.Tls

namespace Emission

/-- The chunks that a message is cut into. -/
def chunks (policy : Policy) (body : Bytes) (entropy : Entropy) : List Span :=
  (Plan.chunks body.length policy.size (name policy body) entropy).1.toList

/-- What is sent after the fragments: what followed the cut record, if anything did. -/
def trailing (rest : Bytes) : List Bytes := if rest = [] then [] else [rest]

/-- What is sent after the fragments holds just what followed the cut record. -/
@[simp] theorem flatten_trailing (rest : Bytes) : (trailing rest).flatten = rest := by
  unfold trailing
  split
  · next empty => simp [empty]
  · simp

section

variable (policy : Policy) (header : RecordHeader) (body rest origin : Bytes) (entropy : Entropy)

/-- The chunks tile the message. -/
theorem tile_chunks : Span.tile 0 body.length (chunks policy body entropy) = true :=
  Plan.tile_chunks _ _ _ _

/-- An emission has one fragment for each chunk. -/
theorem fragments_start : (start policy header body rest origin entropy).1.fragments =
    (chunks policy body entropy).length := by
  simp only [start, Plan.records, chunks, Array.size_map, Array.length_toList]

/-- An emission sends the records of its chunks, and then what followed the cut record. -/
theorem toList_records_start : (start policy header body rest origin entropy).1.records.toList =
    (chunks policy body entropy).map (fun chunk => Plan.record header (chunk.slice body)) ++
      trailing rest := by
  simp only [start, trailing, chunks, ← Plan.toList_records]
  split
  · rw [List.append_nil]
  · rw [Array.toList_push]

end

/-- A chunk of a message that one record can hold carries something, and no more than one record
can hold. -/
theorem length_slice_chunk {body : Bytes} (fits : body.length < 65536) (policy : Policy)
    (entropy : Entropy) {chunk : Span} (mem : chunk ∈ chunks policy body entropy) :
    0 < (chunk.slice body).length ∧ (chunk.slice body).length < 65536 := by
  have tiled := tile_chunks policy body entropy
  obtain ⟨-, nonempty, inside⟩ := Span.bounds_of_mem_tile tiled mem
  rw [Span.length_slice inside, Span.length]
  omega

end Emission

/-- The record of a chunk of a message. -/
def Record.ofChunk (header : RecordHeader) (body : Bytes) (chunk : Span) : Record :=
  ⟨header.forPayload (chunk.slice body), chunk.slice body⟩

/-- What it takes for octets that are sent to be a record with `header` and `body`, cut into
`records`, and then `rest`. -/
structure Reassembles (header : RecordHeader) (body rest : Bytes) (sent : List Bytes)
    (records : List Record) : Prop where
  /-- There is a record. -/
  nonempty : records ≠ []
  /-- Nothing is sent but the records, each whole, and the rest. -/
  whole : sent = records.map Record.encode ++ Emission.trailing rest
  /-- What is sent reads as the records and then exactly the rest. -/
  reads : Record.readMany records.length sent.flatten = some (records, rest)
  /-- Every record is of the original content type. -/
  sameType : ∀ record ∈ records, record.header.contentType = header.contentType
  /-- Every record is of the original version. -/
  sameVersion : ∀ record ∈ records, record.header.version = header.version
  /-- No record states the length zero. -/
  positive : ∀ record ∈ records, record.header.length ≠ 0
  /-- Every record states the length of its payload. -/
  sized : ∀ record ∈ records, record.header.length.toNat = record.payload.length
  /-- The payloads in order are the body. -/
  joined : (records.map Record.payload).flatten = body

/-- Reading back undoes the cutting: for every buffer that opens with a whole ClientHello record,
every policy and every random outcome, what the emission sends reassembles to that record and
what followed it. -/
theorem exists_reassembles {buffer body rest : Bytes} {header : RecordHeader}
    (opens : inspect buffer = .clientHello header body rest) (policy : Policy)
    (entropy : Entropy) :
    ∃ records, Reassembles header body rest
      (Emission.start policy header body rest buffer entropy).1.records.toList records := by
  obtain ⟨-, stated, long⟩ := eq_of_inspect opens
  have fits : body.length < 65536 := stated ▸ header.length.toNat_lt
  have bodyPositive : 0 < body.length := Nat.lt_of_lt_of_le (by decide) long
  have tiled := Emission.tile_chunks policy body entropy
  have chunkLength : ∀ chunk ∈ Emission.chunks policy body entropy,
      0 < (chunk.slice body).length ∧ (chunk.slice body).length < 65536 :=
    fun chunk mem => Emission.length_slice_chunk fits policy entropy mem
  have sized : ∀ record ∈ (Emission.chunks policy body entropy).map (Record.ofChunk header body),
      record.Sized :=
    List.forall_mem_map.mpr fun chunk mem => header.toNat_length_forPayload (chunkLength chunk mem).2
  have whole : (Emission.start policy header body rest buffer entropy).1.records.toList =
      ((Emission.chunks policy body entropy).map (Record.ofChunk header body)).map Record.encode ++
        Emission.trailing rest := by
    rw [Emission.toList_records_start, List.map_map]
    rfl
  refine ⟨(Emission.chunks policy body entropy).map (Record.ofChunk header body), ?_⟩
  constructor
  case nonempty =>
    intro none
    exact Span.ne_nil_of_tile bodyPositive tiled (List.map_eq_nil_iff.mp none)
  case whole => exact whole
  case reads =>
    rw [whole, List.flatten_append, Emission.flatten_trailing]
    exact Record.readMany_encode sized rest
  case sameType => exact List.forall_mem_map.mpr fun chunk mem => rfl
  case sameVersion => exact List.forall_mem_map.mpr fun chunk mem => rfl
  case positive =>
    rw [List.forall_mem_map]
    intro chunk mem zero
    have exact : (Record.ofChunk header body chunk).header.length.toNat =
        (chunk.slice body).length := header.toNat_length_forPayload (chunkLength chunk mem).2
    rw [zero] at exact
    exact absurd exact.symm (Nat.ne_of_gt (chunkLength chunk mem).1)
  case sized => exact sized
  case joined =>
    rw [List.map_map]
    exact (Span.flatten_slices body tiled).trans (Span.slice_whole body)

/-- A body of four octets cut at every place, with two octets behind it. -/
theorem exists_reassembles_bytewise :
    inspect [22, 3, 1, 0, 4, 1, 0, 0, 0, 23, 3] =
        .clientHello ⟨22, 0x0301, 4⟩ [1, 0, 0, 0] [23, 3] ∧
      ∃ records, Reassembles ⟨22, 0x0301, 4⟩ [1, 0, 0, 0] [23, 3]
        (Emission.start ⟨.fixed 0, .fixed 0, false⟩ ⟨22, 0x0301, 4⟩ [1, 0, 0, 0] [23, 3]
          [22, 3, 1, 0, 4, 1, 0, 0, 0, 23, 3] ⟨id, 0⟩).1.records.toList records :=
  have opens : inspect [22, 3, 1, 0, 4, 1, 0, 0, 0, 23, 3] =
      .clientHello ⟨22, 0x0301, 4⟩ [1, 0, 0, 0] [23, 3] := by decide
  ⟨opens, exists_reassembles opens _ _⟩

/-! ## The host name -/

/-- What becomes of a host name that is cut: the chunks of the message split it in two and keep
everything else apart from it. -/
structure Severed (name : Span) (chunks : List Span) : Prop where
  /-- A boundary falls strictly inside the name. -/
  cut : ∃ chunk ∈ chunks, name.start < chunk.stop ∧ chunk.stop < name.stop
  /-- No chunk covers the whole name. -/
  uncovered : ∀ chunk ∈ chunks, ¬ (chunk.start ≤ name.start ∧ name.stop ≤ chunk.stop)
  /-- Exactly two chunks carry octets of the name. -/
  pair : (chunks.filter (·.meets name)).length = 2
  /-- A chunk that carries octets of the name carries nothing else. -/
  within : ∀ chunk ∈ chunks, chunk.meets name = true →
    name.start ≤ chunk.start ∧ chunk.stop ≤ name.stop
  /-- A chunk begins where the name does. -/
  begins : ∃ chunk ∈ chunks, chunk.start = name.start
  /-- A chunk ends where the name does. -/
  ends : ∃ chunk ∈ chunks, chunk.stop = name.stop

/-- Two pieces of a name between chunks before it and chunks after it sever it. -/
theorem severed_of_pieces {name : Span} {length cut : Nat} {before after : List Span}
    (first : name.start < cut) (second : cut < name.stop)
    (beforeTiled : Span.tile 0 name.start before = true)
    (afterTiled : Span.tile name.stop length after = true) :
    Severed name (before ++ ([⟨name.start, cut⟩, ⟨cut, name.stop⟩] ++ after)) := by
  have firstMeets : (Span.mk name.start cut).meets name = true :=
    decide_eq_true ⟨show name.start < name.stop by omega, first⟩
  have secondMeets : (Span.mk cut name.stop).meets name = true :=
    decide_eq_true ⟨second, show name.start < name.stop by omega⟩
  have members : ∀ chunk ∈ before ++ ([⟨name.start, cut⟩, ⟨cut, name.stop⟩] ++ after),
      chunk.stop ≤ name.start ∨ chunk = ⟨name.start, cut⟩ ∨ chunk = ⟨cut, name.stop⟩ ∨
        name.stop ≤ chunk.start ∧ chunk.start < chunk.stop := by
    intro chunk mem
    simp only [List.mem_append, List.mem_cons, List.not_mem_nil, or_false] at mem
    rcases mem with mem | (same | same) | mem
    · exact .inl (Span.bounds_of_mem_tile beforeTiled mem).2.2
    · exact .inr (.inl same)
    · exact .inr (.inr (.inl same))
    · have := Span.bounds_of_mem_tile afterTiled mem
      exact .inr (.inr (.inr ⟨this.1, this.2.1⟩))
  constructor
  case cut => exact ⟨⟨name.start, cut⟩, by simp, first, second⟩
  case uncovered =>
    rintro chunk mem ⟨starts, stops⟩
    rcases members chunk mem with earlier | rfl | rfl | later
    · omega
    · exact absurd stops (Nat.not_le_of_lt second)
    · exact absurd starts (Nat.not_le_of_lt first)
    · omega
  case pair =>
    rw [List.filter_append, List.filter_append, Span.filter_meets_before beforeTiled,
      Span.filter_meets_after afterTiled]
    simp [firstMeets, secondMeets]
  case within =>
    intro chunk mem meets
    simp only [Span.meets, decide_eq_true_eq] at meets
    rcases members chunk mem with earlier | rfl | rfl | later
    · omega
    · exact ⟨Nat.le_refl _, Nat.le_of_lt second⟩
    · exact ⟨Nat.le_of_lt first, Nat.le_refl _⟩
    · omega
  case begins => exact ⟨⟨name.start, cut⟩, by simp, rfl⟩
  case ends => exact ⟨⟨cut, name.stop⟩, by simp, rfl⟩

/-- A host name of at least two octets is severed. -/
theorem severed_of_locate {policy : Policy} {body : Bytes} {name : Span} (entropy : Entropy)
    (aligned : policy.sniSplit = true) (located : ServerName.locate body = .ok name)
    (long : 2 ≤ name.length) : Severed name (Emission.chunks policy body entropy) := by
  have inside := (ServerName.bounds_of_locate located).2
  have found : Emission.name policy body = some name := by
    rw [Emission.name, if_pos aligned, located]
    rfl
  have cuttable : Plan.cuttable body.length (Emission.name policy body) = some name := by
    rw [found]
    exact Option.filter_eq_some_iff.mpr ⟨rfl, decide_eq_true ⟨inside, long⟩⟩
  obtain ⟨before, cut, after, planned, first, second, beforeTiled, afterTiled⟩ :=
    Plan.chunks_of_cuttable policy.size entropy cuttable
  rw [Emission.chunks, planned]
  exact severed_of_pieces first second beforeTiled afterTiled

/-- Without a host name of at least two octets to cut, the plan is the general division. -/
theorem plan_eq_divide {policy : Policy} {body : Bytes} (entropy : Entropy)
    (unaligned : policy.sniSplit = false ∨ (∃ fault, ServerName.locate body = .error fault) ∨
      ∃ name, ServerName.locate body = .ok name ∧ name.length < 2) :
    Plan.chunks body.length policy.size (Emission.name policy body) entropy =
      Plan.divide policy.size 0 body.length #[] entropy := by
  apply Plan.chunks_of_uncuttable
  rw [Emission.name]
  rcases unaligned with off | ⟨fault, failed⟩ | ⟨name, located, short⟩
  · simp [off, Plan.cuttable]
  · simp [failed, Plan.cuttable, Except.toOption]
  · split
    · rw [located]
      apply Option.filter_eq_none_iff.mpr
      intro other same
      cases same
      simp only [decide_eq_true_eq]
      omega
    · rfl

/-- The host name is always cut. What an emission sends are the records of chunks that tile the
body, and then what followed the cut record. The chunks sever a host name of at least two octets
when cuts are aligned with it. If they are not, or no host name is found, or it has one octet
only, they are those of the general division of the whole body. -/
theorem name_severed (policy : Policy) (header : RecordHeader) (body rest buffer : Bytes)
    (entropy : Entropy) :
    ((Emission.start policy header body rest buffer entropy).1.records.toList =
        (Emission.chunks policy body entropy).map
            (fun chunk => Plan.record header (chunk.slice body)) ++ Emission.trailing rest ∧
      Span.tile 0 body.length (Emission.chunks policy body entropy) = true) ∧
    (∀ name, policy.sniSplit = true → ServerName.locate body = .ok name → 2 ≤ name.length →
      Severed name (Emission.chunks policy body entropy)) ∧
    ((policy.sniSplit = false ∨ (∃ fault, ServerName.locate body = .error fault) ∨
        ∃ name, ServerName.locate body = .ok name ∧ name.length < 2) →
      Plan.chunks body.length policy.size (Emission.name policy body) entropy =
        Plan.divide policy.size 0 body.length #[] entropy) := by
  refine ⟨⟨?_, ?_⟩, ?_, ?_⟩
  · exact Emission.toList_records_start policy header body rest buffer entropy
  · exact Emission.tile_chunks policy body entropy
  · intro name aligned located long
    exact severed_of_locate entropy aligned located long
  · intro unaligned
    exact plan_eq_divide entropy unaligned

/-- A message that ends with its host name, `abc`. -/
def shortHello : ClientHello where
  message :=
    { version := [3, 3]
      random := List.replicate 32 7
      sessionId := []
      cipherSuites := []
      compressionMethods := []
      block :=
        { skipped := []
          names :=
            { list :=
                { skipped := []
                  host := [97, 98, 99]
                  rest := []
                  foreign := by simp
                  named := by simp
                  fits := by decide }
              rest := []
              fits := by decide }
          rest := []
          foreign := by simp
          fits := by decide }
      rest := []
      versionLength := rfl
      randomLength := rfl
      sessionIdFits := by decide
      cipherSuitesFit := by decide
      compressionMethodsFit := by decide
      fits := by decide }
  rest := []
  fits := by decide

/-- The name is severed also by sizes that are larger than the message, and the same sizes leave
the message whole when cuts are not aligned. -/
theorem name_severed_shortHello :
    ServerName.locate shortHello.encode = .ok ⟨53, 56⟩ ∧
      Severed ⟨53, 56⟩
        (Emission.chunks ⟨.fixed 100, .fixed 0, true⟩ shortHello.encode ⟨id, 0⟩) ∧
      Plan.chunks shortHello.encode.length (.fixed 100)
          (Emission.name ⟨.fixed 100, .fixed 0, false⟩ shortHello.encode) ⟨id, 0⟩ =
        Plan.divide (.fixed 100) 0 shortHello.encode.length #[] ⟨id, 0⟩ :=
  have located : ServerName.locate shortHello.encode = .ok ⟨53, 56⟩ :=
    ServerName.locate_encode shortHello
  ⟨located,
    (name_severed ⟨.fixed 100, .fixed 0, true⟩ default shortHello.encode [] [] ⟨id, 0⟩).2.1 _ rfl
      located (by decide),
    (name_severed ⟨.fixed 100, .fixed 0, false⟩ default shortHello.encode [] [] ⟨id, 0⟩).2.2
      (.inl rfl)⟩

end Outbound.Tls
