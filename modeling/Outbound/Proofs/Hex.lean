import Mathlib.Data.List.Basic
import Outbound.Hex

/-!
# Hexadecimal texts

Which texts spell octets is said by a grammar (`Hex.Spells`) of digits in either case, two for each
octet. The reader accepts the texts of the grammar and no others (`Hex.decodeChars_eq_ok_iff`), and
it makes no difference in which case they are written.
-/
namespace Outbound

/-! ## Case -/

/-- In lower case a capital letter has a number that is greater by 32, and any other character the
same. -/
theorem toNat_toLower (c : Char) :
    c.toLower.toNat = if 65 ≤ c.toNat ∧ c.toNat ≤ 90 then c.toNat + 32 else c.toNat := by
  unfold Char.toLower
  by_cases capital : 65 ≤ c.toNat ∧ c.toNat ≤ 90
  · rw [if_pos capital]
    split
    · show (c.val + 32).toNat = c.toNat + 32
      rw [UInt32.toNat_add]
      exact Nat.mod_eq_of_lt (show c.toNat + 32 < 4294967296 by omega)
    · exact absurd capital ‹_›
  · rw [if_neg capital]
    split
    · exact absurd ‹_› capital
    · rfl

/-- A capital letter is a given character in lower case just if that one's number is greater by 32;
any other character is itself. -/
theorem toLower_eq_iff {c d : Char} :
    c.toLower = d ↔ if 65 ≤ c.toNat ∧ c.toNat ≤ 90 then c.toNat + 32 = d.toNat else c = d := by
  rw [← Char.toNat_inj, ← Char.toNat_inj, toNat_toLower]
  split <;> rfl

namespace Hex

/-- A hexadecimal digit of either case, and the number that it stands for. -/
inductive Digit : Char → Nat → Prop
  /-- A decimal digit stands for its distance from zero. -/
  | decimal {c : Char} (digit : '0' ≤ c ∧ c ≤ '9') : Digit c (c.toNat - '0'.toNat)
  /-- The first letters stand for ten and more. -/
  | small {c : Char} (letter : 'a' ≤ c ∧ c ≤ 'f') : Digit c (c.toNat - 'a'.toNat + 10)
  /-- So do the capital ones. -/
  | capital {c : Char} (letter : 'A' ≤ c ∧ c ≤ 'F') : Digit c (c.toNat - 'A'.toNat + 10)

/-- The texts that spell octets: two digits for each, the higher half first. -/
inductive Spells : List Char → Bytes → Prop
  /-- No digits spell no octets. -/
  | nil : Spells [] []
  /-- Two digits spell one octet more. -/
  | pair {c d : Char} {high low : Nat} {text : List Char} {bytes : Bytes} (first : Digit c high)
      (second : Digit d low) (rest : Spells text bytes) :
      Spells (c :: d :: text) (UInt8.ofNat (high * 16 + low) :: bytes)

/-! ## Digits -/

/-- The value of a character is the number that it stands for as a digit. -/
theorem digitValue?_eq_some_iff {c : Char} {value : Nat} :
    digitValue? c = some value ↔ Digit c value := by
  have le (c d : Char) : c ≤ d ↔ c.toNat ≤ d.toNat := Iff.rfl
  constructor
  · intro found
    unfold digitValue? at found
    split at found
    case isTrue decimal =>
      cases found
      exact .decimal decimal
    split at found
    case isTrue small =>
      cases found
      have least : 97 ≤ c.toNat := small.1
      rw [show c.toNat - 87 = c.toNat - 'a'.toNat + 10 by simp only [Char.reduceToNat]; omega]
      exact .small small
    split at found
    case isTrue capital =>
      cases found
      have least : 65 ≤ c.toNat := capital.1
      rw [show c.toNat - 55 = c.toNat - 'A'.toNat + 10 by simp only [Char.reduceToNat]; omega]
      exact .capital capital
    case isFalse => cases found
  · intro digit
    cases digit with
    | decimal digit => exact if_pos digit
    | small letter =>
      simp only [digitValue?, le, Char.reduceToNat] at letter ⊢
      rw [if_neg (by omega), if_pos letter]
      congr 1
      omega
    | capital letter =>
      simp only [digitValue?, le, Char.reduceToNat] at letter ⊢
      rw [if_neg (by omega), if_neg (by omega), if_pos letter]
      congr 1
      omega

/-- A digit has the same value in lower case. -/
theorem digitValue?_toLower (c : Char) : digitValue? c.toLower = digitValue? c := by
  have le (c d : Char) : c ≤ d ↔ c.toNat ≤ d.toNat := Iff.rfl
  have number := toNat_toLower c
  simp only [digitValue?, le, Char.reduceToNat]
  grind

/-- A digit takes one octet. -/
theorem utf8Size_of_digit {c : Char} {value : Nat} (digit : Digit c value) : c.utf8Size = 1 := by
  have ascii : c.toNat ≤ 127 := by
    cases digit with
    | decimal digit => exact Nat.le_trans digit.2 (by decide)
    | small letter => exact Nat.le_trans letter.2 (by decide)
    | capital letter => exact Nat.le_trans letter.2 (by decide)
  exact Char.utf8Size_eq_one_iff.mpr ascii

/-! ## Octets -/

/-- A text that spells octets consists of digits, two for each octet, whose values give the
octets. -/
theorem digits_of_spells {text : List Char} {bytes : Bytes} (spells : Spells text bytes) :
    text.find? (fun c => (digitValue? c).isNone) = none ∧
      encodedSize text = 2 * bytes.length ∧ octets (text.filterMap digitValue?) = bytes := by
  induction spells with
  | nil => exact ⟨rfl, rfl, rfl⟩
  | @pair c d high low text bytes first second _ ih =>
    obtain ⟨good, size, same⟩ := ih
    have higher := digitValue?_eq_some_iff.mpr first
    have lower := digitValue?_eq_some_iff.mpr second
    refine ⟨?_, ?_, ?_⟩
    · rw [List.find?_cons_of_neg (by simp [higher]), List.find?_cons_of_neg (by simp [lower]), good]
    · rw [encodedSize, encodedSize, utf8Size_of_digit first, utf8Size_of_digit second, size,
        List.length_cons]
      omega
    · rw [List.filterMap_cons_some higher, List.filterMap_cons_some lower, octets, same]

/-- Digits two by two spell the octets that their values give. -/
theorem spells_octets : ∀ {text : List Char}, (∀ c ∈ text, ∃ value, digitValue? c = some value) →
    encodedSize text % 2 = 0 → Spells text (octets (text.filterMap digitValue?))
  | [], _, _ => .nil
  | [c], all, even => by
    obtain ⟨value, found⟩ := all c (List.mem_cons_self ..)
    have size := utf8Size_of_digit (digitValue?_eq_some_iff.mp found)
    simp only [encodedSize, size] at even
    cases even
  | c :: d :: text, all, even => by
    obtain ⟨⟨high, higher⟩, all⟩ := List.forall_mem_cons.mp all
    obtain ⟨⟨low, lower⟩, all⟩ := List.forall_mem_cons.mp all
    have first := digitValue?_eq_some_iff.mp higher
    have second := digitValue?_eq_some_iff.mp lower
    rw [encodedSize, encodedSize, utf8Size_of_digit first, utf8Size_of_digit second] at even
    rw [List.filterMap_cons_some higher, List.filterMap_cons_some lower, octets]
    exact .pair first second (spells_octets all (by omega))

/-- A text is decoded just if it spells octets. -/
theorem decodeChars_eq_ok_iff {text : List Char} {bytes : Bytes} :
    decodeChars text = .ok bytes ↔ Spells text bytes := by
  constructor
  · intro found
    unfold decodeChars at found
    split at found
    · cases found
    · next even =>
      split at found
      · cases found
      · next good =>
        cases found
        refine spells_octets (fun c mem => ?_) (by omega)
        have digit := List.find?_eq_none.mp good c mem
        exact Option.ne_none_iff_exists'.mp fun none => digit (by rw [none]; rfl)
  · intro spells
    obtain ⟨good, size, same⟩ := digits_of_spells spells
    rw [decodeChars, if_neg (by omega), good, same]

/-- A digit is one in either case. -/
theorem digit_toLower_iff {c : Char} {value : Nat} : Digit c.toLower value ↔ Digit c value := by
  rw [← digitValue?_eq_some_iff, ← digitValue?_eq_some_iff, digitValue?_toLower]

/-- Octets are spelled in either case. -/
theorem spells_toLower_iff : ∀ {text : List Char} {bytes : Bytes},
    Spells (text.map Char.toLower) bytes ↔ Spells text bytes
  | [], _ => Iff.rfl
  | [_], _ => by constructor <;> (intro spells; cases spells)
  | c :: d :: text, bytes => by
    constructor
    · intro spells
      obtain _ | ⟨first, second, rest⟩ := spells
      exact .pair (digit_toLower_iff.mp first) (digit_toLower_iff.mp second)
        (spells_toLower_iff.mp rest)
    · intro spells
      obtain _ | ⟨first, second, rest⟩ := spells
      exact .pair (digit_toLower_iff.mpr first) (digit_toLower_iff.mpr second)
        (spells_toLower_iff.mpr rest)

end Hex

end Outbound
