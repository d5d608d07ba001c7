import Outbound.Bytes

/-!
# Hexadecimal digits

Octets are written as pairs of lower-case hexadecimal digits and read from digits of either
case. `decode_encode` says that reading undoes writing.
-/
namespace Outbound

/-- Why a text is not a string of octets. -/
inductive HexError where
  /-- The text has an odd number of octets. -/
  | oddLength
  /-- The octet at a place of the text is no digit. -/
  | invalidCharacter (octet : UInt8) (index : Nat)
  deriving DecidableEq, Inhabited

namespace Hex

/-- The number below sixteen that a digit stands for. -/
def digitValue? (c : Char) : Option Nat :=
  if '0' ≤ c ∧ c ≤ '9' then some (c.toNat - 48)
  else if 'a' ≤ c ∧ c ≤ 'f' then some (c.toNat - 87)
  else if 'A' ≤ c ∧ c ≤ 'F' then some (c.toNat - 55)
  else none

/-- The lower-case digit of a number below sixteen. -/
def digit (n : Nat) : Char := if n < 10 then Char.ofNat (48 + n) else Char.ofNat (87 + n)

/-- The two digits of an octet. -/
def pair (octet : UInt8) : List Char := [digit (octet.toNat / 16), digit (octet.toNat % 16)]

/-- The digits of a string of octets. -/
def digits (bytes : Bytes) : List Char := bytes.flatMap pair

/-- The digits of a string of octets, as text. -/
def encode (bytes : Bytes) : String := String.ofList (digits bytes)

/-- The first octet of a character's encoded form. -/
def leadOctet (c : Char) : UInt8 :=
  match String.utf8EncodeChar c with
  | octet :: _ => octet
  | [] => 0

/-- Octets from pairs of digits; a digit left alone ends the reading. -/
def octets : List Nat → Bytes
  | high :: low :: rest => UInt8.ofNat (high * 16 + low) :: octets rest
  | _ => []

/-- How many octets the encoded form of a list of characters has. -/
def encodedSize : List Char → Nat
  | [] => 0
  | c :: rest => c.utf8Size + encodedSize rest

/-- The octets that a list of characters stands for. The number of encoded octets is checked
first, then the characters in order. -/
def decodeChars (text : List Char) : Except HexError Bytes :=
  if encodedSize text % 2 = 1 then .error .oddLength
  else
    match text.find? fun c => (digitValue? c).isNone with
    | some c =>
      .error (.invalidCharacter (leadOctet c)
        (text.takeWhile fun c => (digitValue? c).isSome).length)
    | none => .ok (octets (text.filterMap digitValue?))

/-- The octets that a text stands for. -/
def decode (text : String) : Except HexError Bytes := decodeChars text.toList

/-- A digit written for a number stands for it. -/
theorem digitValue?_digit {n : Nat} (bound : n < 16) : digitValue? (digit n) = some n := by
  have all : ∀ n, n < 16 → digitValue? (digit n) = some n := by decide
  exact all n bound

/-- A written digit takes one octet. -/
theorem utf8Size_digit {n : Nat} (bound : n < 16) : (digit n).utf8Size = 1 := by
  have all : ∀ n, n < 16 → (digit n).utf8Size = 1 := by decide
  exact all n bound

/-- The characters of written octets are digits. -/
theorem exists_of_mem_digits {bytes : Bytes} {c : Char} (h : c ∈ digits bytes) :
    ∃ n < 16, c = digit n := by
  obtain ⟨octet, _, h⟩ := List.mem_flatMap.mp h
  have := octet.toNat_lt
  rcases List.mem_cons.mp h with rfl | h
  · exact ⟨_, by omega, rfl⟩
  · exact ⟨_, by omega, List.mem_singleton.mp h⟩

/-- Pairs of written digits give the octets. -/
theorem octets_digits (bytes : Bytes) : octets ((digits bytes).filterMap digitValue?) = bytes := by
  induction bytes with
  | nil => rfl
  | cons octet rest ih =>
    have := octet.toNat_lt
    have high := digitValue?_digit (show octet.toNat / 16 < 16 by omega)
    have low := digitValue?_digit (show octet.toNat % 16 < 16 by omega)
    have whole : octet.toNat / 16 * 16 + octet.toNat % 16 = octet.toNat := by omega
    have split : digits (octet :: rest) = pair octet ++ digits rest := rfl
    simp only [split, pair, List.cons_append, List.nil_append, List.filterMap_cons, high, low,
      octets, whole, ih, UInt8.ofNat_toNat]

/-- Written octets take an even number of octets. -/
theorem encodedSize_digits (bytes : Bytes) : encodedSize (digits bytes) = 2 * bytes.length := by
  induction bytes with
  | nil => rfl
  | cons octet rest ih =>
    have := octet.toNat_lt
    have high := utf8Size_digit (show octet.toNat / 16 < 16 by omega)
    have low := utf8Size_digit (show octet.toNat % 16 < 16 by omega)
    have split : digits (octet :: rest) = pair octet ++ digits rest := rfl
    simp only [split, pair, List.cons_append, List.nil_append, encodedSize, high, low, ih,
      List.length_cons]
    omega

/-- Reading written octets gives the octets. -/
theorem decodeChars_digits (bytes : Bytes) : decodeChars (digits bytes) = .ok bytes := by
  have good : (digits bytes).find? (fun c => (digitValue? c).isNone) = none := by
    rw [List.find?_eq_none]
    intro c h
    obtain ⟨n, bound, rfl⟩ := exists_of_mem_digits h
    simp [digitValue?_digit bound]
  simp [decodeChars, encodedSize_digits, good, octets_digits]

/-- Reading the text written for octets gives the octets. -/
theorem decode_encode (bytes : Bytes) : decode (encode bytes) = .ok bytes := by
  simp [decode, encode, decodeChars_digits]

/-- A number in hexadecimal, without leading zeros. -/
def numeral (n : Nat) : List Char :=
  if n < 16 then [digit n] else numeral (n / 16) ++ [digit (n % 16)]
termination_by n

end Hex

namespace HexError

/-- An octet of a refused text, shown as the character of that number: the usual escapes, a
numbered escape for what has no shape on paper, and every other character as it is. -/
def shown (octet : UInt8) : String :=
  if octet = 0 then "\\0"
  else if octet = 9 then "\\t"
  else if octet = 10 then "\\n"
  else if octet = 13 then "\\r"
  else if octet = 39 ∨ octet = 92 then String.ofList ['\\', Char.ofNat octet.toNat]
  else if octet < 32 ∨ (127 ≤ octet ∧ octet ≤ 160) ∨ octet = 173 then
    "\\u\x7b" ++ String.ofList (Hex.numeral octet.toNat) ++ "\x7d"
  else String.singleton (Char.ofNat octet.toNat)

/-- The wording of a refusal. -/
def message : HexError → String
  | oddLength => "Odd number of digits"
  | invalidCharacter octet index => s!"Invalid character '{shown octet}' at position {index}"

end HexError

end Outbound
