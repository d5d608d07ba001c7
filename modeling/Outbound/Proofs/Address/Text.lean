import Mathlib.Data.List.Basic
import Mathlib.Data.List.TakeWhile
import Outbound.Address.Ip
import Outbound.Proofs.Numeral

/-!
# Addresses and their texts

The text of an address spells it (`Ipv4.parse_text`, `Ipv6.parse_text`). In the customary form of
the sixth version the groups that `::` stands for are zeros, so the reader puts back what was left
out; and a text without a dot has no dotted tail.
-/
namespace Outbound

namespace Address.Reader

/-! ## Numbers -/

/-- A numeral that is short and small enough is read up to its end. -/
theorem number_append {value? : Char → Option Nat} (base : Nat) {most limit : Nat}
    {digits rest : List Char} (all : ∀ c ∈ digits, (value? c).isSome = true)
    (stops : Stops (fun c => (value? c).isSome) rest) (some_digit : digits ≠ [])
    (short : digits.length ≤ most)
    (small : (digits.filterMap value?).foldl (fun sum digit => sum * base + digit) 0 < limit) :
    number value? base most limit (digits ++ rest) =
      some ((digits.filterMap value?).foldl (fun sum digit => sum * base + digit) 0, rest) := by
  have taken := stops.takeWhile_append all
  have refused : ¬ (digits = [] ∨ most < digits.length ∨
      limit ≤ (digits.filterMap value?).foldl (fun sum digit => sum * base + digit) 0) := by
    rintro (none | long | large)
    · exact some_digit none
    · omega
    · omega
  simp only [number, taken, if_neg refused, List.drop_left]

/-- Where no digit stands no number is read. -/
theorem number_none {value? : Char → Option Nat} {base most limit : Nat} {text : List Char}
    (stops : Stops (fun c => (value? c).isSome) text) :
    number value? base most limit text = none := by
  simp only [number, stops.takeWhile_eq_nil, true_or, if_true]

/-- The value of a digit. -/
theorem decimal?_of_isDigit {c : Char} (digit : Decimal.IsDigit c) :
    decimal? c = some (Decimal.digitValue c) := if_pos digit

/-- The values of the digits of a numeral. -/
theorem filterMap_decimal? {digits : List Char} (all : ∀ c ∈ digits, Decimal.IsDigit c) :
    digits.filterMap decimal? = digits.map Decimal.digitValue := by
  rw [← List.filterMap_eq_map]
  exact List.filterMap_congr fun c mem => decimal?_of_isDigit (all c mem)

/-- A number below a bound is read from its numeral. -/
theorem number_digits {most limit n : Nat} {rest : List Char}
    (stops : Stops (fun c => (decimal? c).isSome) rest)
    (short : (Decimal.digits n).length ≤ most) (small : n < limit) :
    number decimal? 10 most limit (Decimal.digits n ++ rest) = some (n, rest) := by
  have digit : ∀ c ∈ Decimal.digits n, Decimal.IsDigit c :=
    fun c mem => Decimal.isDigit_of_mem_digits mem
  have value : ((Decimal.digits n).filterMap decimal?).foldl
      (fun sum digit => sum * 10 + digit) 0 = n := by
    rw [filterMap_decimal? digit, List.foldl_map]
    exact Decimal.value_digits n
  have read := number_append 10 (fun c mem => by rw [decimal?_of_isDigit (digit c mem)]; rfl) stops
    (Decimal.digits_ne_nil n) short (by rw [value]; exact small)
  rw [read, value]

/-- A number below a bound is read from its numeral in hexadecimal. -/
theorem number_numeral {most limit n : Nat} {rest : List Char}
    (stops : Stops (fun c => (Hex.digitValue? c).isSome) rest)
    (short : (Hex.numeral n).length ≤ most) (small : n < limit) :
    number Hex.digitValue? 16 most limit (Hex.numeral n ++ rest) = some (n, rest) := by
  have all : ∀ c ∈ Hex.numeral n, (Hex.digitValue? c).isSome = true := by
    intro c mem
    obtain ⟨value, bound, rfl⟩ := Hex.exists_of_mem_numeral mem
    rw [Hex.digitValue?_digit bound]
    rfl
  have value := Hex.value_numeral n
  have read := number_append 16 all stops (Hex.numeral_ne_nil n) short (by rw [value]; exact small)
  rw [read, value]

/-! ## The fourth version -/

/-- A character before anything is the one expected. -/
theorem expect_cons (c : Char) (rest : List Char) : expect c (c :: rest) = some rest := if_pos rfl

/-- An octet is read from its numeral. -/
theorem octet_digits {value : UInt8} {rest : List Char}
    (stops : Stops (fun c => (decimal? c).isSome) rest) :
    octet (Decimal.digits value.toNat ++ rest) = some (value, rest) := by
  have small := value.toNat_lt
  have short : (Decimal.digits value.toNat).length ≤ 3 :=
    Decimal.length_digits_le (by decide) (by omega)
  have shortest : ¬ ((Decimal.digits value.toNat ++ rest).head? = some '0' ∧
      (Decimal.digits value.toNat ++ rest).length ≠ rest.length + 1) := by
    rintro ⟨zero, long⟩
    obtain ⟨first, others, front⟩ := List.exists_cons_of_ne_nil (Decimal.digits_ne_nil value.toNat)
    have none := Decimal.eq_zero_of_head_digits (n := value.toNat)
      (by rw [front] at zero ⊢; exact zero)
    rw [none, Decimal.digits_zero, List.length_append, List.length_singleton] at long
    omega
  rw [octet, number_digits stops short small]
  simp only [Option.bind_eq_bind, Option.bind_some, if_neg shortest, UInt8.ofNat_toNat]

/-- A dot is no digit. -/
theorem stops_dot (rest : List Char) : Stops (fun c => (decimal? c).isSome) ('.' :: rest) :=
  .cons (by decide)

/-- An address is read from its text, up to its end. -/
theorem ipv4_characters (address : Ipv4) {rest : List Char}
    (stops : Stops (fun c => (decimal? c).isSome) rest) :
    ipv4 (address.characters ++ rest) = some (address, rest) := by
  have digits : address.characters ++ rest =
      Decimal.digits address.a.toNat ++ '.' :: (Decimal.digits address.b.toNat ++ '.' ::
        (Decimal.digits address.c.toNat ++ '.' :: (Decimal.digits address.d.toNat ++ rest))) := by
    simp only [Ipv4.characters, List.append_assoc, List.cons_append]
  rw [digits]
  simp only [ipv4, octet_digits (stops_dot _), expect_cons, octet_digits stops,
    Option.bind_eq_bind, Option.bind_some]

/-- Where no digit stands no octet is read. -/
theorem octet_none {text : List Char} (stops : Stops (fun c => (decimal? c).isSome) text) :
    octet text = none := by
  rw [octet, number_none stops]
  rfl

/-- What a number leaves is the end of a text. -/
theorem suffix_of_number {value? : Char → Option Nat} {base most limit value : Nat}
    {text rest : List Char} (read : number value? base most limit text = some (value, rest)) :
    rest <:+ text := by
  rw [number] at read
  split at read
  · cases read
  · cases read
    exact List.drop_suffix ..

/-- What an octet leaves is the end of a text. -/
theorem suffix_of_octet {text rest : List Char} {value : UInt8}
    (read : octet text = some (value, rest)) : rest <:+ text := by
  rw [octet] at read
  obtain ⟨⟨sum, left⟩, number, read⟩ := Option.bind_eq_some_iff.mp read
  dsimp only at read
  split at read
  · cases read
  · cases read
    exact suffix_of_number number

/-- A text without a dot is no dotted tail. -/
theorem ipv4_none {text : List Char} (plain : '.' ∉ text) : ipv4 text = none := by
  cases read : octet text with
  | none =>
    rw [ipv4, read]
    rfl
  | some found =>
    obtain ⟨value, rest⟩ := found
    have later : expect '.' rest = none := by
      rw [expect, if_neg]
      intro dot
      exact plain ((suffix_of_octet read).mem (List.mem_of_head? dot))
    simp only [ipv4, read, later, Option.bind_eq_bind, Option.bind_some, Option.bind_none]

/-! ## The sixth version -/

/-- A group is read from its numeral. -/
theorem group_numeral {value : UInt16} {rest : List Char}
    (stops : Stops (fun c => (Hex.digitValue? c).isSome) rest) :
    group (Hex.numeral value.toNat ++ rest) = some (value, rest) := by
  have small := value.toNat_lt
  have short : (Hex.numeral value.toNat).length ≤ 4 :=
    Hex.length_numeral_le (by decide) (by omega)
  simp only [group, number_numeral stops short small, Option.map_some, UInt16.ofNat_toNat]

/-- Groups, each after a colon. -/
def following (groups : List UInt16) : List Char :=
  groups.flatMap fun group => ':' :: Hex.numeral group.toNat

/-- Groups between colons are the first, and the others each after a colon. -/
theorem joined_cons (first : UInt16) (groups : List UInt16) :
    Ipv6.joined (first :: groups) = Hex.numeral first.toNat ++ following groups := by
  induction groups generalizing first with
  | nil => simp [Ipv6.joined, following]
  | cons second groups ih =>
    have others := ih second
    simp only [Ipv6.joined, List.map_cons] at others ⊢
    rw [List.intercalate_cons_cons, others, List.append_assoc]
    rfl

/-- A text that ends after groups, or goes on with `::`. -/
def Ends (text : List Char) : Prop := text = [] ∨ ∃ more, text = ':' :: ':' :: more

namespace Ends

variable {text : List Char}

/-- No group goes on after the end of another. -/
theorem stops (ends : Ends text) (groups : List UInt16) :
    Stops (fun c => (Hex.digitValue? c).isSome) (following groups ++ text) := by
  cases groups with
  | nil =>
    obtain rfl | ⟨more, rfl⟩ := ends
    · exact .nil
    · exact .cons (by decide)
  | cons group groups => exact .cons (by decide)

/-- No group starts where groups end. -/
theorem group_none (ends : Ends text) : group text = none := by
  have stops : Stops (fun c => (Hex.digitValue? c).isSome) text := ends.stops []
  rw [group, number_none stops]
  rfl

end Ends

/-- Without a dotted tail and a group, a stretch is over. -/
theorem stretch_over {room : Nat} {isFirst : Bool} {text body : List Char}
    (start : (if isFirst then some text else expect ':' text) = some body)
    (undotted : ipv4 body = none) (ungrouped : group body = none) :
    stretch room isFirst text = ⟨[], false, text⟩ := by
  cases room with
  | zero => rfl
  | succ room => simp only [stretch, start, undotted, ungrouped, ite_self]

/-- Without a dotted tail, a stretch goes on after a group. -/
theorem stretch_group {room : Nat} {isFirst : Bool} {text body rest : List Char}
    {first : UInt16} (start : (if isFirst then some text else expect ':' text) = some body)
    (undotted : ipv4 body = none) (found : group body = some (first, rest)) :
    stretch (room + 1) isFirst text =
      { stretch room false rest with groups := first :: (stretch room false rest).groups } := by
  simp only [stretch, start, undotted, found, ite_self]

/-- A group that is not the first stands after a colon. -/
theorem start_colon (body : List Char) :
    (if false then some (':' :: body) else expect ':' (':' :: body)) = some body :=
  expect_cons ':' body

/-- Groups that follow each other are read up to their end. -/
theorem stretch_following {groups : List UInt16} {text : List Char} (ends : Ends text)
    {room : Nat} (fits : groups.length ≤ room) (plain : '.' ∉ following groups ++ text) :
    stretch room false (following groups ++ text) = ⟨groups, false, text⟩ := by
  induction groups generalizing room with
  | nil =>
    obtain rfl | ⟨more, rfl⟩ := ends
    · cases room <;> rfl
    · have stops : Stops (fun c => (Hex.digitValue? c).isSome) (':' :: more) :=
        .cons (by decide)
      refine stretch_over (expect_cons ':' (':' :: more)) (ipv4_none fun dot => ?_) ?_
      · exact plain (List.mem_cons_of_mem _ dot)
      · rw [group, number_none stops]
        rfl
  | cons first groups ih =>
    obtain ⟨room, rfl⟩ : ∃ left, room = left + 1 := ⟨room - 1, by simp at fits; omega⟩
    have layout : following (first :: groups) ++ text =
        ':' :: (Hex.numeral first.toNat ++ (following groups ++ text)) := by
      simp [following]
    rw [layout] at plain ⊢
    have body : '.' ∉ Hex.numeral first.toNat ++ (following groups ++ text) :=
      fun dot => plain (List.mem_cons_of_mem _ dot)
    have others := ih (Nat.le_of_succ_le_succ fits) fun dot => body (List.mem_append_right _ dot)
    rw [stretch_group (start_colon _) (ipv4_none body) (group_numeral (ends.stops groups)), others]

/-- Groups between colons are read up to their end. -/
theorem stretch_joined (groups : List UInt16) {text : List Char} (ends : Ends text)
    {room : Nat} (fits : groups.length ≤ room) (plain : '.' ∉ Ipv6.joined groups ++ text) :
    stretch room true (Ipv6.joined groups ++ text) = ⟨groups, false, text⟩ := by
  cases groups with
  | nil => exact stretch_over rfl (ipv4_none plain) ends.group_none
  | cons first groups =>
    obtain ⟨room, rfl⟩ : ∃ left, room = left + 1 := ⟨room - 1, by simp at fits; omega⟩
    rw [joined_cons, List.append_assoc] at plain ⊢
    have others := stretch_following ends (Nat.le_of_succ_le_succ fits)
      (fun dot => plain (List.mem_append_right _ dot))
    rw [stretch_group rfl (ipv4_none plain) (group_numeral (ends.stops groups)), others]

/-- Groups between colons have no dot. -/
theorem dot_notMem_joined (groups : List UInt16) : '.' ∉ Ipv6.joined groups := by
  have digit : ∀ n, '.' ∉ Hex.numeral n := by
    intro n mem
    obtain ⟨value, bound, same⟩ := Hex.exists_of_mem_numeral mem
    have read := Hex.digitValue?_digit bound
    rw [← same] at read
    cases read
  cases groups with
  | nil => simp [Ipv6.joined]
  | cons first groups =>
    rw [joined_cons, following]
    simp [digit]

end Address.Reader

/-- The text of an address of the fourth version spells it. -/
theorem Ipv4.parse_text (address : Ipv4) : Ipv4.parse address.text = some address := by
  have read := Address.Reader.ipv4_characters address .nil
  rw [List.append_nil] at read
  simp only [parse, text, Address.Reader.whole, String.toList_ofList, read]

namespace Ipv6

/-- Groups of a run of zeros are zeros. -/
theorem take_zeros {groups : List UInt16} {place length : Nat}
    (zeros : length ≤ zerosFrom groups place) :
    (groups.drop place).take length = List.replicate length 0 := by
  obtain ⟨others, whole⟩ := List.takeWhile_prefix (fun group : UInt16 => group == 0)
    (l := groups.drop place)
  rw [zerosFrom] at zeros
  rw [← whole, List.take_append_of_le_length zeros]
  refine List.eq_replicate_iff.mpr ⟨List.length_take_of_le zeros, fun group mem => ?_⟩
  have zero := List.mem_takeWhile_imp (List.mem_of_mem_take mem)
  exact eq_of_beq zero

/-- Zeros for those of a run, between what stands around it, give the groups back. -/
theorem take_replicate_drop {groups : List UInt16} {place length : Nat}
    (zeros : length ≤ zerosFrom groups place) :
    groups.take place ++ List.replicate length 0 ++ groups.drop (place + length) = groups := by
  rw [← take_zeros zeros, ← List.drop_drop, List.append_assoc, List.take_append_drop,
    List.take_append_drop]

/-- The longest run of zeros consists of zeros. -/
theorem longestRun_le (groups : List UInt16) :
    (longestRun groups).2 ≤ zerosFrom groups (longestRun groups).1 := by
  have run : ∀ (places : List Nat) (best : Nat × Nat), best.2 ≤ zerosFrom groups best.1 →
      let longest := places.foldl (fun best place =>
        if best.2 < zerosFrom groups place then (place, zerosFrom groups place) else best) best
      longest.2 ≤ zerosFrom groups longest.1 := by
    intro places
    induction places with
    | nil => exact fun _ good => good
    | cons place places ih =>
      intro best good
      refine ih _ ?_
      dsimp only
      split
      · exact Nat.le_refl _
      · exact good
  exact run _ _ (Nat.zero_le _)

/-- An address that maps one of the fourth version, and that one. -/
theorem groups_of_mapped {address : Ipv6} {inner : Ipv4} (mapped : address.mapped? = some inner) :
    address.groups = [0, 0, 0, 0, 0, 0xffff] ++ inner.groups := by
  rw [mapped?] at mapped
  split at mapped
  case h_1 high low groups =>
    cases mapped
    have first := high.toNat_lt
    have second := low.toNat_lt
    have whole : ∀ group : UInt16, UInt16.ofNat ((UInt8.ofNat (group.toNat / 256)).toNat * 256 +
        (UInt8.ofNat (group.toNat % 256)).toNat) = group := by
      intro group
      have bound := group.toNat_lt
      apply UInt16.toNat_inj.mp
      simp only [UInt16.toNat_ofNat', UInt8.toNat_ofNat']
      omega
    rw [groups, Ipv4.groups, whole, whole]
    rfl
  case h_2 => cases mapped

open Address.Reader

/-- An address that maps one of the fourth version is read from its text. -/
theorem ipv6_mapped (inner : Ipv4) :
    ipv6 ("::ffff:".toList ++ inner.characters) =
      (ofGroups ([0, 0, 0, 0, 0, 0xffff] ++ inner.groups)).map fun address => (address, []) := by
  have colon : Stops (fun c => (decimal? c).isSome) ("::ffff:".toList ++ inner.characters) :=
    .cons (by decide)
  have head : stretch 8 true ("::ffff:".toList ++ inner.characters) =
      ⟨[], false, "::ffff:".toList ++ inner.characters⟩ := by
    refine stretch_over rfl ?_ (Ends.group_none (.inr ⟨_, rfl⟩))
    rw [ipv4, octet_none colon]
    rfl
  have first : group ("ffff".toList ++ ':' :: inner.characters) =
      some (0xffff, ':' :: inner.characters) := by
    have ffff : "ffff".toList = Hex.numeral (0xffff : UInt16).toNat := by
      simp [Hex.numeral, Hex.digit]
    rw [ffff]
    exact group_numeral (.cons (by decide))
  have tail : stretch 7 true ("ffff".toList ++ ':' :: inner.characters) =
      ⟨0xffff :: inner.groups, true, []⟩ := by
    have letter : Stops (fun c => (decimal? c).isSome)
        ("ffff".toList ++ ':' :: inner.characters) := .cons (by decide)
    have read := ipv4_characters inner .nil
    rw [List.append_nil] at read
    rw [stretch_group rfl (by rw [ipv4, octet_none letter]; rfl) first]
    simp only [stretch, start_colon, read]
    rfl
  have rest : (expect ':' ("::ffff:".toList ++ inner.characters) >>= expect ':') =
      some ("ffff".toList ++ ':' :: inner.characters) := rfl
  simp only [ipv6, head, rest, Option.bind_eq_bind, Option.bind_some, List.length_nil, tail,
    Nat.sub_zero]
  rw [if_neg (by decide), if_neg (by decide)]
  exact Option.map_eq_bind.symm

/-- Groups around a `::` are read with zeros between them. -/
theorem ipv6_joined_around {before behind : List UInt16}
    (fits : before.length + behind.length < 8) :
    ipv6 (joined before ++ ':' :: ':' :: joined behind) =
      (ofGroups (before ++ List.replicate (8 - before.length - behind.length) 0 ++ behind)).map
        fun address => (address, []) := by
  have plain : '.' ∉ joined before ++ ':' :: ':' :: joined behind := by
    simp [dot_notMem_joined]
  have head : stretch 8 true (joined before ++ ':' :: ':' :: joined behind) =
      ⟨before, false, ':' :: ':' :: joined behind⟩ :=
    stretch_joined before (.inr ⟨_, rfl⟩) (by omega) plain
  have tail : stretch (7 - before.length) true (joined behind ++ []) = ⟨behind, false, []⟩ :=
    stretch_joined behind (.inl rfl) (by omega) (by simpa using dot_notMem_joined behind)
  rw [List.append_nil] at tail
  have short : before.length ≠ 8 := by omega
  have rest : (expect ':' (':' :: ':' :: joined behind) >>= expect ':') =
      some (joined behind) := rfl
  simp only [ipv6, head, if_neg short, rest, Bool.false_eq_true, if_false, Option.bind_eq_bind,
    Option.bind_some, tail]
  exact Option.map_eq_bind.symm

/-- Eight groups are read from their text. -/
theorem ipv6_joined {groups : List UInt16} (size : groups.length = 8) :
    ipv6 (joined groups) = (ofGroups groups).map fun address => (address, []) := by
  have head : stretch 8 true (joined groups ++ []) = ⟨groups, false, []⟩ :=
    stretch_joined groups (.inl rfl) (by omega) (by simpa using dot_notMem_joined groups)
  rw [List.append_nil] at head
  simp only [ipv6, head, if_pos size]

/-- The text of an address of the sixth version spells it. -/
theorem parse_text (address : Ipv6) : Ipv6.parse address.text = some address := by
  have spelled : ipv6 address.characters = some (address, []) := by
    have whole : ofGroups address.groups = some address := dif_pos address.size
    rw [characters]
    split
    case h_1 inner mapped =>
      rw [ipv6_mapped, ← groups_of_mapped mapped, whole]
      rfl
    case h_2 unmapped =>
      have zeros := longestRun_le address.groups
      generalize longestRun address.groups = longest at zeros
      obtain ⟨place, length⟩ := longest
      dsimp only at zeros ⊢
      split
      · have size := address.size
        have within : length ≤ 8 - place := by
          have part : zerosFrom address.groups place ≤ (address.groups.drop place).length :=
            (List.takeWhile_sublist _).length_le
          rw [List.length_drop, size] at part
          exact Nat.le_trans zeros part
        have left : 8 - (address.groups.take place).length -
            (address.groups.drop (place + length)).length = length := by
          rw [List.length_take, List.length_drop]
          omega
        rw [ipv6_joined_around (by rw [List.length_take, List.length_drop]; omega), left,
          take_replicate_drop zeros, whole]
        rfl
      · rw [ipv6_joined address.size, whole]
        rfl
  simp only [parse, text, whole, String.toList_ofList, spelled]

end Ipv6

end Outbound
