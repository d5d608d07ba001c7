import Outbound.Decimal
import Outbound.Hex

/-!
# Internet addresses

An address of the fourth version is four octets, one of the sixth is eight sixteen-bit groups.
The texts are the strict ones: no leading zeros in octets, at most four digits in a group, one
`::` for any number of zero groups, and a dotted tail where two groups may stand. The longest
run of two or more zero groups is written `::`, the first of equally long ones, and only an
address that maps one of the fourth version is written with a dotted tail.
-/
namespace Outbound

/-- An address of the fourth version. -/
structure Ipv4 where
  (a b c d : UInt8)
  deriving DecidableEq, Inhabited

/-- An address of the sixth version. -/
structure Ipv6 where
  /-- The groups, highest first. -/
  groups : List UInt16
  /-- There are eight. -/
  size : groups.length = 8
  deriving DecidableEq

/-- An internet address. -/
inductive Ip where
  | v4 (address : Ipv4)
  | v6 (address : Ipv6)
  deriving DecidableEq

namespace Ipv4

/-- The address that stands for every local one. -/
def unspecified : Ipv4 := ⟨0, 0, 0, 0⟩

/-- The first address of the local host. -/
def localhost : Ipv4 := ⟨127, 0, 0, 1⟩

/-- Dotted decimal. -/
def characters (address : Ipv4) : List Char :=
  Decimal.digits address.a.toNat ++ '.' :: Decimal.digits address.b.toNat ++ '.' ::
    Decimal.digits address.c.toNat ++ '.' :: Decimal.digits address.d.toNat

/-- The text of an address. -/
def text (address : Ipv4) : String := String.ofList address.characters

/-- The two groups that an address fills at the end of one of the sixth version. -/
def groups (address : Ipv4) : List UInt16 :=
  [UInt16.ofNat (address.a.toNat * 256 + address.b.toNat),
    UInt16.ofNat (address.c.toNat * 256 + address.d.toNat)]

end Ipv4

namespace Ipv6

/-- The address that stands for every local one. -/
def unspecified : Ipv6 := ⟨List.replicate 8 0, rfl⟩

/-- The address of the fourth version that this one maps, if it does. -/
def mapped? (address : Ipv6) : Option Ipv4 :=
  match address.groups with
  | [0, 0, 0, 0, 0, 0xffff, high, low] =>
    some ⟨UInt8.ofNat (high.toNat / 256), UInt8.ofNat (high.toNat % 256),
      UInt8.ofNat (low.toNat / 256), UInt8.ofNat (low.toNat % 256)⟩
  | _ => none

/-- How many zero groups follow each other from a place on. -/
def zerosFrom (groups : List UInt16) (place : Nat) : Nat :=
  ((groups.drop place).takeWhile (· == 0)).length

/-- The place and length of the longest run of zero groups, the first of equally long ones. -/
def longestRun (groups : List UInt16) : Nat × Nat :=
  (List.range groups.length).foldl
    (fun best place =>
      if best.2 < zerosFrom groups place then (place, zerosFrom groups place) else best)
    (0, 0)

/-- Groups in hexadecimal, between colons. -/
def joined (groups : List UInt16) : List Char :=
  [':'].intercalate (groups.map fun group => Hex.numeral group.toNat)

/-- The shortest customary form. -/
def characters (address : Ipv6) : List Char :=
  match address.mapped? with
  | some inner => "::ffff:".toList ++ inner.characters
  | none =>
    let (place, length) := longestRun address.groups
    if 1 < length then
      joined (address.groups.take place) ++ ':' :: ':' ::
        joined (address.groups.drop (place + length))
    else joined address.groups

/-- The text of an address. -/
def text (address : Ipv6) : String := String.ofList address.characters

end Ipv6

namespace Address.Reader

/-- A number in digits that `value?` knows, at most `most` of them and below `limit`. -/
def number (value? : Char → Option Nat) (base most limit : Nat) (text : List Char) :
    Option (Nat × List Char) :=
  let digits := text.takeWhile fun c => (value? c).isSome
  let sum := (digits.filterMap value?).foldl (fun sum digit => sum * base + digit) 0
  if digits = [] ∨ most < digits.length ∨ limit ≤ sum then none
  else some (sum, text.drop digits.length)

/-- The value of a decimal digit. -/
def decimal? (c : Char) : Option Nat :=
  if Decimal.IsDigit c then some (Decimal.digitValue c) else none

/-- The text after one given character. -/
def expect (c : Char) (text : List Char) : Option (List Char) :=
  if text.head? = some c then some text.tail else none

/-- One octet in decimal, without leading zeros. -/
def octet (text : List Char) : Option (UInt8 × List Char) := do
  let (value, rest) ← number decimal? 10 3 256 text
  if text.head? = some '0' ∧ text.length ≠ rest.length + 1 then none
  else some (UInt8.ofNat value, rest)

/-- Dotted decimal. -/
def ipv4 (text : List Char) : Option (Ipv4 × List Char) := do
  let (a, rest) ← octet text
  let (b, rest) ← expect '.' rest >>= octet
  let (c, rest) ← expect '.' rest >>= octet
  let (d, rest) ← expect '.' rest >>= octet
  some (⟨a, b, c, d⟩, rest)

/-- One group in hexadecimal. -/
def group (text : List Char) : Option (UInt16 × List Char) :=
  (number Hex.digitValue? 16 4 65536 text).map fun (value, rest) => (UInt16.ofNat value, rest)

/-- What a stretch of groups gave. -/
structure Stretch where
  /-- The groups read. -/
  groups : List UInt16
  /-- Whether the last two were written as a dotted tail. -/
  dotted : Bool
  /-- The text after them. -/
  rest : List Char

/-- As many groups between colons as there are, at most `room` of them. A dotted tail fills
two and ends the stretch. -/
def stretch : (room : Nat) → (isFirst : Bool) → List Char → Stretch
  | 0, _, text => ⟨[], false, text⟩
  | room + 1, isFirst, text =>
    match if isFirst then some text else expect ':' text with
    | none => ⟨[], false, text⟩
    | some body =>
      match if room = 0 then none else ipv4 body with
      | some (tail, rest) => ⟨tail.groups, true, rest⟩
      | none =>
        match group body with
        | none => ⟨[], false, text⟩
        | some (first, rest) =>
          let others := stretch room false rest
          { others with groups := first :: others.groups }

/-- The address of eight groups. -/
def ofGroups (groups : List UInt16) : Option Ipv6 :=
  if size : groups.length = 8 then some ⟨groups, size⟩ else none

/-- Eight groups, or fewer around one `::`. -/
def ipv6 (text : List Char) : Option (Ipv6 × List Char) :=
  let head := stretch 8 true text
  if head.groups.length = 8 then (ofGroups head.groups).map fun address => (address, head.rest)
  else if head.dotted then none
  else do
    let rest ← expect ':' head.rest >>= expect ':'
    let tail := stretch (7 - head.groups.length) true rest
    let zeros := List.replicate (8 - head.groups.length - tail.groups.length) 0
    let address ← ofGroups (head.groups ++ zeros ++ tail.groups)
    some (address, tail.rest)

/-- What a reader finds when it leaves nothing unread. -/
def whole {α : Type} (read : List Char → Option (α × List Char)) (text : String) : Option α :=
  match read text.toList with
  | some (found, []) => some found
  | _ => none

end Address.Reader

/-- The address of the fourth version that a text spells. -/
def Ipv4.parse (text : String) : Option Ipv4 := Address.Reader.whole Address.Reader.ipv4 text

/-- The address of the sixth version that a text spells. -/
def Ipv6.parse (text : String) : Option Ipv6 := Address.Reader.whole Address.Reader.ipv6 text

namespace Ip

/-- The address that a text spells. -/
def parse (text : String) : Option Ip :=
  match Ipv4.parse text with
  | some address => some (v4 address)
  | none => (Ipv6.parse text).map v6

/-- The text of an address. -/
def text : Ip → String
  | v4 address => address.text
  | v6 address => address.text

/-- Whether an address belongs to the sixth version. -/
def isV6 : Ip → Bool
  | v4 _ => false
  | v6 _ => true

end Ip

end Outbound
