import Outbound.Proofs.Steps
import Outbound.Tls.ServerName

/-!
# Reading through a window

What a successful read of a window says about its octets, and what a window reads that starts
with given octets. The two directions together make a window a reader of exactly the counted
fields written by `Bytes.counted8`, `Bytes.counted16` and `Bytes.counted24`.
-/
namespace Outbound

namespace Bytes

/-- The three octets of a number below 16777216, high octet first. -/
def word24Bytes (value : Nat) : Bytes :=
  [UInt8.ofNat (value / 65536), UInt8.ofNat (value / 256), UInt8.ofNat value]

/-- Octets behind a field of one octet that counts them. -/
def counted8 (bytes : Bytes) : Bytes := UInt8.ofNat bytes.length :: bytes

/-- Octets behind a field of two octets that counts them. -/
def counted16 (bytes : Bytes) : Bytes := word16Bytes (UInt16.ofNat bytes.length) ++ bytes

/-- Octets behind a field of three octets that counts them. -/
def counted24 (bytes : Bytes) : Bytes := word24Bytes bytes.length ++ bytes

/-- Octets counted by two octets. -/
@[simp] theorem length_counted16 (bytes : Bytes) :
    (counted16 bytes).length = 2 + bytes.length := by
  simp [counted16]

/-- The octets written for the number of a field are the octets it was read from. -/
theorem word16Bytes_ofNat_word16 (high low : UInt8) :
    word16Bytes (UInt16.ofNat (word16 high low).toNat) = [high, low] := by
  rw [UInt16.ofNat_toNat, word16Bytes_word16]

/-- The octets written for the number of a longer field are the octets it was read from. -/
theorem word24Bytes_word24 (high middle low : UInt8) :
    word24Bytes (word24 high middle low) = [high, middle, low] := by
  have hh := high.toNat_lt
  have hm := middle.toNat_lt
  have hl := low.toNat_lt
  simp only [word24Bytes, word24, List.cons.injEq, and_true]
  refine ⟨?_, ?_, ?_⟩ <;> apply UInt8.toNat_inj.mp <;> simp only [UInt8.toNat_ofNat'] <;> omega

/-- Reading the octets written for a number gives the number. -/
theorem word24_word24Bytes {value : Nat} (bound : value < 16777216) :
    word24 (UInt8.ofNat (value / 65536)) (UInt8.ofNat (value / 256)) (UInt8.ofNat value) =
      value := by
  simp only [word24, UInt8.toNat_ofNat']
  omega

end Bytes

namespace Tls.ServerName

namespace Window

variable {window next data : Window} {field field' : Field} {count : Nat}

/-! ## What a successful read says -/

/-- A number of one octet was the first octet. -/
theorem bytes_of_word8 {value : UInt8} (read : window.word8 field = .ok (value, next)) :
    window.bytes = value :: next.bytes ∧ next.offset = window.offset + 1 := by
  unfold word8 at read
  split at read
  · next octets =>
    cases read
    exact ⟨octets, rfl⟩
  · cases read

/-- A number of two octets was written by the first two octets. -/
theorem bytes_of_word16 (read : window.word16 field = .ok (count, next)) :
    count < 65536 ∧ window.bytes = Bytes.word16Bytes (UInt16.ofNat count) ++ next.bytes ∧
      next.offset = window.offset + 2 := by
  unfold word16 at read
  split at read
  · next octets =>
    cases read
    refine ⟨UInt16.toNat_lt _, ?_, rfl⟩
    rw [octets, Bytes.word16Bytes_ofNat_word16]
    rfl
  · cases read

/-- A number of three octets was written by the first three octets. -/
theorem bytes_of_word24 (read : window.word24 field = .ok (count, next)) :
    count < 16777216 ∧ window.bytes = Bytes.word24Bytes count ++ next.bytes ∧
      next.offset = window.offset + 3 := by
  unfold word24 at read
  split at read
  · next octets =>
    cases read
    refine ⟨Bytes.word24_lt _ _ _, ?_, rfl⟩
    rw [octets, Bytes.word24Bytes_word24]
    rfl
  · cases read

/-- Octets passed over stood before what is left. -/
theorem bytes_of_skip (read : window.skip field count = .ok next) :
    ∃ passed : Bytes, passed.length = count ∧ window.bytes = passed ++ next.bytes ∧
      next.offset = window.offset + count := by
  unfold skip at read
  split at read
  · cases read
  · next enough =>
    cases read
    exact ⟨window.bytes.take count, List.length_take_of_le (Nat.le_of_not_lt enough),
      (List.take_append_drop count window.bytes).symm, rfl⟩

/-- A part split off stood before what is left. -/
theorem bytes_of_part (read : window.part field count = .ok (data, next)) :
    data.bytes.length = count ∧ window.bytes = data.bytes ++ next.bytes ∧
      data.offset = window.offset := by
  unfold part at read
  split at read
  · cases read
  · next enough =>
    cases read
    exact ⟨List.length_take_of_le (Nat.le_of_not_lt enough),
      (List.take_append_drop count window.bytes).symm, rfl⟩

/-- Octets passed over after their count in one octet were counted by it. -/
theorem counted8_of_skip {value : UInt8} {rest : Window}
    (counted : window.word8 field = .ok (value, next))
    (skipped : next.skip field' value.toNat = .ok rest) :
    ∃ passed : Bytes, passed.length < 256 ∧ window.bytes = Bytes.counted8 passed ++ rest.bytes ∧
      rest.offset = window.offset + 1 + passed.length := by
  obtain ⟨octets, place⟩ := bytes_of_word8 counted
  obtain ⟨passed, exact, after, placed⟩ := bytes_of_skip skipped
  refine ⟨passed, exact ▸ UInt8.toNat_lt value, ?_, by rw [placed, place, exact]⟩
  rw [octets, after, Bytes.counted8, exact, UInt8.ofNat_toNat]
  rfl

/-- Octets passed over after their count in two octets were counted by it. -/
theorem counted16_of_skip {rest : Window} (counted : window.word16 field = .ok (count, next))
    (skipped : next.skip field' count = .ok rest) :
    ∃ passed : Bytes, passed.length < 65536 ∧ passed.length = count ∧
      window.bytes = Bytes.counted16 passed ++ rest.bytes ∧
        rest.offset = window.offset + 2 + passed.length := by
  obtain ⟨bound, octets, place⟩ := bytes_of_word16 counted
  obtain ⟨passed, exact, after, placed⟩ := bytes_of_skip skipped
  refine ⟨passed, exact ▸ bound, exact, ?_, by rw [placed, place, exact]⟩
  rw [octets, after, Bytes.counted16, exact, List.append_assoc]

/-- A part split off after its count in two octets was counted by it. -/
theorem counted16_of_part {rest : Window} (counted : window.word16 field = .ok (count, next))
    (split : next.part field' count = .ok (data, rest)) :
    data.bytes.length < 65536 ∧ window.bytes = Bytes.counted16 data.bytes ++ rest.bytes ∧
      data.offset = window.offset + 2 := by
  obtain ⟨bound, octets, place⟩ := bytes_of_word16 counted
  obtain ⟨exact, after, placed⟩ := bytes_of_part split
  refine ⟨exact ▸ bound, ?_, by rw [placed, place]⟩
  rw [octets, after, Bytes.counted16, exact, List.append_assoc]

/-! ## Reading what was written -/

/-- One octet in front is read as a number. -/
theorem word8_cons (offset : Nat) (value : UInt8) (rest : Bytes) :
    (mk offset (value :: rest)).word8 field = .ok (value, ⟨offset + 1, rest⟩) := rfl

/-- The count of some octets is read as it was written. -/
theorem word8_counted8 (offset : Nat) (bytes rest : Bytes) :
    (mk offset (Bytes.counted8 bytes ++ rest)).word8 field =
      .ok (UInt8.ofNat bytes.length, ⟨offset + 1, bytes ++ rest⟩) := rfl

/-- A number written in two octets is read back. -/
theorem word16_word16Bytes (offset : Nat) (word : UInt16) (rest : Bytes) :
    (mk offset (Bytes.word16Bytes word ++ rest)).word16 field =
      .ok (word.toNat, ⟨offset + 2, rest⟩) := by
  simp [word16, Bytes.word16Bytes, Bytes.word16_word16Bytes]

/-- The count of some octets is read as their number. -/
theorem word16_counted16 (offset : Nat) {bytes : Bytes} (fits : bytes.length < 65536)
    (rest : Bytes) :
    (mk offset (Bytes.counted16 bytes ++ rest)).word16 field =
      .ok (bytes.length, ⟨offset + 2, bytes ++ rest⟩) := by
  rw [Bytes.counted16, List.append_assoc, word16_word16Bytes, UInt16.toNat_ofNat_of_lt' fits]

/-- The count of some octets is read as their number. -/
theorem word24_counted24 (offset : Nat) {bytes : Bytes} (fits : bytes.length < 16777216)
    (rest : Bytes) :
    (mk offset (Bytes.counted24 bytes ++ rest)).word24 field =
      .ok (bytes.length, ⟨offset + 3, bytes ++ rest⟩) := by
  simp [word24, Bytes.counted24, Bytes.word24Bytes, Bytes.word24_word24Bytes fits]

/-- As many octets as stand in front are passed over. -/
theorem skip_append (offset : Nat) (bytes rest : Bytes) :
    (mk offset (bytes ++ rest)).skip field bytes.length =
      .ok ⟨offset + bytes.length, rest⟩ := by
  simp [skip, advance]

/-- As many octets as stand in front are split off. -/
theorem part_append (offset : Nat) (bytes rest : Bytes) :
    (mk offset (bytes ++ rest)).part field bytes.length =
      .ok (⟨offset, bytes⟩, ⟨offset + bytes.length, rest⟩) := by
  simp [part, advance]

end Window

end Tls.ServerName

end Outbound
