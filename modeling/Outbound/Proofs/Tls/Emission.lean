import Outbound.Proofs.Tls.Fragmentation

/-!
# An emission in flight

Between two calls an emission is `Sound`: it stands inside one of its records, none of which is
empty, and a pause is kept only between two fragments. Sending on keeps it so, and what it has
sent grows by exactly the octets that were taken, until the whole image is out.
-/
namespace Outbound

/-- Drawing from an interval leaves the words as they are. -/
@[simp] theorem Entropy.word_between (low high : Nat) (entropy : Entropy) :
    (entropy.between low high).2.word = entropy.word := by
  unfold between
  split <;> rfl

/-- Drawing from a range leaves the words as they are. -/
@[simp] theorem Range.word_draw (range : Range) (entropy : Entropy) :
    (range.draw entropy).2.word = entropy.word :=
  Entropy.word_between _ _ _

namespace Tls

/-- Dividing a stretch leaves the words as they are. -/
@[simp] theorem Plan.word_divide (size : Range) (start stop : Nat) (chunks : Array Span)
    (entropy : Entropy) : (divide size start stop chunks entropy).2.word = entropy.word := by
  fun_induction divide size start stop chunks entropy with
  | case1 start chunks entropy more drawn left drew next ih =>
    rw [ih, ← Range.word_draw size entropy, drew]
  | case2 => rfl

/-- A plan leaves the words as they are. -/
@[simp] theorem Plan.word_chunks (length : Nat) (size : Range) (name : Option Span)
    (entropy : Entropy) : (chunks length size name entropy).2.word = entropy.word := by
  unfold chunks
  split <;> simp

namespace Emission

/-- The record being sent. -/
def current (emission : Emission) : Bytes := emission.records.getD emission.index []

/-- Everything that an emission is to send. -/
def image (emission : Emission) : Bytes := emission.records.toList.flatten

/-- What an emission has sent. -/
def sent (emission : Emission) : Bytes :=
  (emission.records.toList.take emission.index).flatten ++ emission.current.take emission.offset

/-- The record being sent is one of the records. -/
theorem current_eq {emission : Emission} (inside : emission.index < emission.records.size) :
    emission.current = emission.records[emission.index] := by
  simp [current, Array.getD, inside]

/-- What holds of an emission between two calls. -/
structure Sound (emission : Emission) : Prop where
  /-- There is a fragment. -/
  fragments_pos : 0 < emission.fragments
  /-- The fragments are among the records. -/
  fragments_le : emission.fragments ≤ emission.records.size
  /-- At most one record is no fragment. -/
  size_le : emission.records.size ≤ emission.fragments + 1
  /-- No record is empty. -/
  records_ne : ∀ record ∈ emission.records.toList, record ≠ []
  /-- The buffer was not empty. -/
  origin_ne : emission.origin ≠ []
  /-- A record is being sent. -/
  index_lt : emission.index < emission.records.size
  /-- It is not out yet. -/
  offset_lt : emission.offset < emission.current.length
  /-- A pause is kept only between two fragments. -/
  paused : emission.pause ≠ none →
    emission.offset = 0 ∧ 0 < emission.index ∧ emission.index < emission.fragments

/-- What an emission has sent is the front of what it is to send. -/
theorem image_eq_sent_append {emission : Emission} (sound : emission.Sound) :
    emission.image = emission.sent ++ (emission.current.drop emission.offset ++
      (emission.records.toList.drop (emission.index + 1)).flatten) := by
  have inside : emission.index < emission.records.toList.length := sound.index_lt
  have record : emission.current = emission.records.toList[emission.index] :=
    current_eq sound.index_lt
  have parts : emission.records.toList = emission.records.toList.take emission.index ++
      (emission.current :: emission.records.toList.drop (emission.index + 1)) := by
    rw [record, List.getElem_cons_drop, List.take_append_drop]
  rw [image, sent, List.append_assoc, ← List.append_assoc (emission.current.take _),
    List.take_append_drop, ← List.flatten_cons, ← List.flatten_append, ← parts]

/-- What an emission has sent is a front part of what it is to send, and not all of it. -/
theorem sent_prefix {emission : Emission} (sound : emission.Sound) :
    emission.sent <+: emission.image ∧ emission.sent ≠ emission.image := by
  have split := image_eq_sent_append sound
  refine ⟨⟨_, split.symm⟩, fun same => ?_⟩
  rw [split] at same
  have lengths := congrArg List.length same
  have short := sound.offset_lt
  simp only [List.length_append, List.length_drop] at lengths
  omega

/-- Ending a pause keeps an emission sound. -/
theorem sound_resume {emission : Emission} (sound : emission.Sound) : emission.resume.Sound :=
  { sound with paused := fun kept => absurd rfl kept }

/-! ## A new emission -/

section

variable (policy : Policy) (header : RecordHeader) (body rest origin : Bytes) (entropy : Entropy)

/-- A new emission leaves the words as they are. -/
@[simp] theorem word_start :
    (start policy header body rest origin entropy).2.word = entropy.word :=
  Plan.word_chunks _ _ _ _

/-- A new emission is to send the records of the chunks and what followed the cut record. -/
theorem image_start : (start policy header body rest origin entropy).1.image =
    ((chunks policy body entropy).map fun chunk =>
      Plan.record header (chunk.slice body)).flatten ++ rest := by
  rw [image, toList_records_start, List.flatten_append, flatten_trailing]

/-- A new emission has sent nothing. -/
theorem sent_start : (start policy header body rest origin entropy).1.sent = [] := by
  simp [sent, start]

end

/-- A new emission of a buffer that opens with a whole ClientHello record is sound. -/
theorem sound_start {buffer body rest : Bytes} {header : RecordHeader}
    (opens : inspect buffer = .clientHello header body rest) (policy : Policy)
    (entropy : Entropy) : (start policy header body rest buffer entropy).1.Sound := by
  obtain ⟨octets, -, long⟩ := eq_of_inspect opens
  have bodyPositive : 0 < body.length := Nat.lt_of_lt_of_le (by decide) long
  have fragments := fragments_start policy header body rest buffer entropy
  have records := toList_records_start policy header body rest buffer entropy
  have size : (start policy header body rest buffer entropy).1.records.size =
      (chunks policy body entropy).length + (trailing rest).length := by
    rw [← Array.length_toList, records, List.length_append, List.length_map]
  have trailingLength : (trailing rest).length ≤ 1 := by
    unfold trailing
    split <;> simp
  have someChunk : 0 < (chunks policy body entropy).length := List.length_pos_iff.mpr
    (Span.ne_nil_of_tile bodyPositive (tile_chunks policy body entropy))
  have recordsNonempty : ∀ record ∈ (start policy header body rest buffer entropy).1.records.toList,
      record ≠ [] := by
    intro record mem
    rw [records, List.mem_append] at mem
    rcases mem with mem | mem
    · obtain ⟨chunk, -, rfl⟩ := List.mem_map.mp mem
      exact List.cons_ne_nil _ _
    · unfold trailing at mem
      split at mem
      · cases mem
      · next nonempty =>
        rw [List.mem_singleton.mp mem]
        exact nonempty
  have someRecord : 0 < (start policy header body rest buffer entropy).1.records.size := by
    omega
  constructor
  case fragments_pos => omega
  case fragments_le => omega
  case size_le => omega
  case records_ne => exact recordsNonempty
  case origin_ne =>
    intro empty
    rw [start] at empty
    rw [show buffer = [] from empty] at octets
    cases octets
  case index_lt => exact someRecord
  case offset_lt =>
    have mem : (start policy header body rest buffer entropy).1.current ∈
        (start policy header body rest buffer entropy).1.records.toList := by
      rw [current_eq]
      · exact Array.getElem_mem_toList _
      · exact someRecord
    exact List.length_pos_iff.mpr (recordsNonempty _ mem)
  case paused =>
    intro kept
    exact absurd rfl kept

/-! ## Sending on -/

/-- Taking note of sent octets leaves the words as they are. -/
@[simp] theorem word_advance (emission : Emission) (policy : Policy) (now count : Nat)
    (entropy : Entropy) : (emission.advance policy now count entropy).2.word = entropy.word := by
  unfold advance
  dsimp only
  split
  · rfl
  · split <;> simp

/-- Once a record is out the next one is begun, after a pause only if it is a fragment. -/
theorem advance_past_eq {emission : Emission} {count : Nat}
    (past : ¬ emission.offset + count < emission.current.length) (policy : Policy) (now : Nat)
    (entropy : Entropy) :
    ∃ pause, (emission.advance policy now count entropy).1 =
        { emission with index := emission.index + 1, offset := 0, pause } ∧
      (pause = emission.pause ∨ emission.index + 1 < emission.fragments) := by
  rw [current] at past
  simp only [advance, if_neg past]
  split
  · next paused =>
    exact ⟨_, rfl, .inr (of_decide_eq_true (Bool.and_eq_true_iff.mp paused).1)⟩
  · exact ⟨_, rfl, .inl rfl⟩

/-- What is sent by the time that the record is out. -/
theorem take_succ_flatten {emission : Emission} (inside : emission.index < emission.records.size) :
    (emission.records.toList.take (emission.index + 1)).flatten =
      (emission.records.toList.take emission.index).flatten ++ emission.current := by
  have bound : emission.index < emission.records.toList.length := inside
  rw [List.take_succ_eq_append_getElem bound, List.flatten_append, List.flatten_singleton,
    current_eq inside]
  rfl

/-- Taking note of sent octets: the emission stays sound and has sent just those octets more, or
they were the last ones and all is out. -/
theorem advance_sound {emission : Emission} (sound : emission.Sound)
    (unpaused : emission.pause = none) (policy : Policy) (now count : Nat) (entropy : Entropy) :
    (emission.advance policy now (count + 1) entropy).1.records = emission.records ∧
      (emission.advance policy now (count + 1) entropy).1.origin = emission.origin ∧
      ((emission.advance policy now (count + 1) entropy).1.Sound ∧
          (emission.advance policy now (count + 1) entropy).1.sent =
            emission.sent ++ (emission.current.drop emission.offset).take (count + 1) ∨
        (emission.advance policy now (count + 1) entropy).1.index = emission.records.size ∧
          (emission.advance policy now (count + 1) entropy).1.pause = none ∧
          emission.image =
            emission.sent ++ (emission.current.drop emission.offset).take (count + 1)) := by
  by_cases within : emission.offset + (count + 1) < emission.current.length
  · rw [advance_within within]
    refine ⟨rfl, rfl, .inl ⟨{ sound with offset_lt := within, paused := fun kept => ?_ }, ?_⟩⟩
    · exact absurd unpaused kept
    · rw [sent, sent, List.append_assoc, ← List.take_add]
      rfl
  · obtain ⟨pause, advanced, kept⟩ := advance_past_eq within policy now entropy
    have taken : (emission.current.drop emission.offset).take (count + 1) =
        emission.current.drop emission.offset := by
      apply List.take_of_length_le
      rw [List.length_drop]
      omega
    have whole : (emission.records.toList.take (emission.index + 1)).flatten =
        emission.sent ++ (emission.current.drop emission.offset).take (count + 1) := by
      rw [take_succ_flatten sound.index_lt, taken, sent, List.append_assoc,
        List.take_append_drop]
    rw [advanced]
    refine ⟨rfl, rfl, ?_⟩
    by_cases more : emission.index + 1 < emission.records.size
    · refine .inl ⟨{ sound with index_lt := more, offset_lt := ?_, paused := ?_ }, ?_⟩
      · rw [current_eq more]
        exact List.length_pos_iff.mpr (sound.records_ne _ (Array.getElem_mem_toList _))
      · intro paused
        refine ⟨rfl, Nat.succ_pos _, ?_⟩
        exact kept.resolve_left fun same => paused (same.trans unpaused)
      · rw [← whole, sent, List.take_zero, List.append_nil]
    · have last : emission.records.size = emission.index + 1 := by
        have := sound.index_lt
        omega
      refine .inr ⟨last.symm, ?_, ?_⟩
      · refine (kept.resolve_right ?_).trans unpaused
        have := sound.fragments_le
        omega
      · rw [← whole, image, ← last, ← Array.length_toList, List.take_length]

end Emission

end Tls

end Outbound
