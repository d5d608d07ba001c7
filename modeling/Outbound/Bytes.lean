/-!
# Byte strings

Wire data is a list of octets. Sixteen-bit fields are written high octet first, and
`word16_word16Bytes` and `word16Bytes_word16` say that writing and reading such a field undo
each other.
-/
namespace Outbound

/-- A byte string. -/
abbrev Bytes := List UInt8

namespace Bytes

/-- The sixteen-bit field whose high octet is `high`. -/
def word16 (high low : UInt8) : UInt16 := UInt16.ofNat (high.toNat * 256 + low.toNat)

/-- The two octets of a sixteen-bit field, high octet first. -/
def word16Bytes (word : UInt16) : Bytes :=
  [UInt8.ofNat (word.toNat / 256), UInt8.ofNat (word.toNat % 256)]

/-- The number held by a twenty-four-bit field. -/
def word24 (high middle low : UInt8) : Nat :=
  high.toNat * 65536 + middle.toNat * 256 + low.toNat

/-- The value of a sixteen-bit field. -/
@[simp] theorem toNat_word16 (high low : UInt8) :
    (word16 high low).toNat = high.toNat * 256 + low.toNat := by
  have hh := high.toNat_lt
  have hl := low.toNat_lt
  simp only [word16, UInt16.toNat_ofNat']
  omega

/-- A field has two octets. -/
@[simp] theorem length_word16Bytes (word : UInt16) : (word16Bytes word).length = 2 := rfl

/-- Reading the octets written for a field gives the field. -/
theorem word16_word16Bytes (word : UInt16) :
    word16 (UInt8.ofNat (word.toNat / 256)) (UInt8.ofNat (word.toNat % 256)) = word := by
  have bound := word.toNat_lt
  apply UInt16.toNat_inj.mp
  simp only [toNat_word16, UInt8.toNat_ofNat']
  omega

/-- The octets written for a field that was read are the octets it was read from. -/
theorem word16Bytes_word16 (high low : UInt8) : word16Bytes (word16 high low) = [high, low] := by
  have hh := high.toNat_lt
  have hl := low.toNat_lt
  simp only [word16Bytes, toNat_word16, List.cons.injEq, and_true]
  constructor <;> apply UInt8.toNat_inj.mp <;> simp only [UInt8.toNat_ofNat'] <;> omega

/-- A field of three octets stays below 16777216. -/
theorem word24_lt (high middle low : UInt8) : word24 high middle low < 16777216 := by
  have hh := high.toNat_lt
  have hm := middle.toNat_lt
  have hl := low.toNat_lt
  simp only [word24]
  omega

end Bytes

end Outbound
