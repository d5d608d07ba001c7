import Mathlib.Data.List.Basic
import Mathlib.Data.List.TakeWhile
import Outbound.Address.Ip

/-!
# The alphabet of addresses

A text that spells an address consists of hexadecimal digits, dots and colons, and does not end
with a dot (`Ip.takes_of_parse`). This is what every part of the reader takes from a text, and it
stays so when parts follow each other.
-/
namespace Outbound

namespace Address.Reader

/-- The characters that the texts of addresses consist of. -/
def InAlphabet (c : Char) : Prop := (Hex.digitValue? c).isSome = true ∨ c = '.' ∨ c = ':'

/-- What is taken from a text is something of the alphabet that does not end with a dot. -/
def Takes (text rest : List Char) : Prop :=
  ∃ front last, text = front ++ last :: rest ∧ (∀ c ∈ front, InAlphabet c) ∧ InAlphabet last ∧
    last ≠ '.'

variable {text middle rest : List Char}

/-- What is taken piece after piece is taken. -/
theorem Takes.trans (first : Takes text middle) (second : Takes middle rest) :
    Takes text rest := by
  obtain ⟨front, last, rfl, fronts, lasts, -⟩ := first
  obtain ⟨others, final, rfl, rest_fronts, finals, undotted⟩ := second
  refine ⟨front ++ last :: others, final, by simp, ?_, finals, undotted⟩
  exact List.forall_mem_append.mpr ⟨fronts, List.forall_mem_cons.mpr ⟨lasts, rest_fronts⟩⟩

/-- A character of the alphabet may stand before what is taken. -/
theorem Takes.after {c : Char} (inside : InAlphabet c) (found : expect c text = some middle)
    (takes : Takes middle rest) : Takes text rest := by
  rw [expect] at found
  split at found
  case isTrue first =>
    cases found
    obtain ⟨front, last, whole, fronts, lasts, undotted⟩ := takes
    refine ⟨c :: front, last, ?_, List.forall_mem_cons.mpr ⟨inside, fronts⟩, lasts, undotted⟩
    rw [List.cons_append, ← whole]
    exact (List.cons_head?_tail first).symm
  case isFalse => cases found

/-- A colon is taken. -/
theorem takes_colon (found : expect ':' text = some rest) : Takes text rest := by
  rw [expect] at found
  split at found
  case isTrue first =>
    cases found
    refine ⟨[], ':', (List.cons_head?_tail first).symm, ?_, .inr (.inr rfl), by decide⟩
    exact List.forall_mem_nil _
  case isFalse => cases found

/-- The digits of a number are taken. -/
theorem takes_number {value? : Char → Option Nat} {base most limit value : Nat}
    (digits : ∀ c, (value? c).isSome = true → (Hex.digitValue? c).isSome = true)
    (read : number value? base most limit text = some (value, rest)) : Takes text rest := by
  obtain ⟨others, whole⟩ := List.takeWhile_prefix (fun c => (value? c).isSome) (l := text)
  have all : ∀ c ∈ text.takeWhile fun c => (value? c).isSome, (Hex.digitValue? c).isSome = true :=
    fun c mem => digits c (List.mem_takeWhile_imp (p := fun c => (value? c).isSome) mem)
  rw [number] at read
  generalize (text.takeWhile fun c => (value? c).isSome) = front at whole all read
  split at read
  case isTrue => cases read
  case isFalse good =>
    cases read
    obtain rfl | ⟨front, last, rfl⟩ := List.eq_nil_or_concat' front
    · exact absurd (.inl rfl) good
    · obtain ⟨fronts, lasts⟩ := List.forall_mem_append.mp all
      have digit := List.forall_mem_singleton.mp lasts
      refine ⟨front, last, ?_, fun c mem => .inl (fronts c mem), .inl digit, ?_⟩
      · rw [← whole, List.drop_left, List.append_assoc, List.singleton_append]
      · rintro rfl
        cases digit

/-- A decimal digit is a hexadecimal one. -/
theorem isSome_digitValue? {c : Char} (digit : (decimal? c).isSome = true) :
    (Hex.digitValue? c).isSome = true := by
  unfold decimal? at digit
  split at digit
  case isTrue decimal =>
    have bounds : '0' ≤ c ∧ c ≤ '9' := decimal
    rw [Hex.digitValue?, if_pos bounds]
    rfl
  case isFalse => cases digit

/-- The digits of an octet are taken. -/
theorem takes_octet {value : UInt8} (read : octet text = some (value, rest)) : Takes text rest := by
  obtain ⟨⟨sum, left⟩, found, read⟩ := Option.bind_eq_some_iff.mp read
  dsimp only at read
  split at read
  · cases read
  · cases read
    exact takes_number (fun _ => isSome_digitValue?) found

/-- A dot and the octet after it are taken. -/
theorem takes_dot_octet {value : UInt8} (read : (expect '.' text >>= octet) = some (value, rest)) :
    Takes text rest := by
  obtain ⟨middle, dot, read⟩ := Option.bind_eq_some_iff.mp read
  exact .after (.inr (.inl rfl)) dot (takes_octet read)

/-- The octets of an address and the dots between them are taken. -/
theorem takes_ipv4 {address : Ipv4} (read : ipv4 text = some (address, rest)) :
    Takes text rest := by
  obtain ⟨⟨a, afterA⟩, first, read⟩ := Option.bind_eq_some_iff.mp read
  obtain ⟨⟨b, afterB⟩, second, read⟩ := Option.bind_eq_some_iff.mp read
  obtain ⟨⟨c, afterC⟩, third, read⟩ := Option.bind_eq_some_iff.mp read
  obtain ⟨⟨d, afterD⟩, fourth, read⟩ := Option.bind_eq_some_iff.mp read
  cases read
  exact (takes_octet first).trans
    ((takes_dot_octet second).trans ((takes_dot_octet third).trans (takes_dot_octet fourth)))

/-- The digits of a group are taken. -/
theorem takes_group {value : UInt16} (read : group text = some (value, rest)) :
    Takes text rest := by
  obtain ⟨⟨sum, left⟩, found, same⟩ := Option.map_eq_some_iff.mp read
  cases same
  exact takes_number (fun _ digit => digit) found

/-- The groups of a stretch are taken, if there are any. -/
theorem takes_stretch (room : Nat) (isFirst : Bool) (text : List Char) :
    stretch room isFirst text = ⟨[], false, text⟩ ∨
      Takes text (stretch room isFirst text).rest := by
  induction room generalizing isFirst text with
  | zero => exact .inl rfl
  | succ room ih =>
    -- The colon before a group is taken with the group.
    have begin : ∀ {body rest : List Char},
        (if isFirst then some text else expect ':' text) = some body →
          Takes body rest → Takes text rest := by
      intro body rest start takes
      cases isFirst with
      | true =>
        cases start
        exact takes
      | false => exact .after (.inr (.inr rfl)) start takes
    rw [stretch]
    split
    case h_1 => exact .inl rfl
    case h_2 body start =>
      split
      case h_1 tail rest found =>
        split at found
        · cases found
        · exact .inr (begin start (takes_ipv4 found))
      case h_2 =>
        split
        case h_1 => exact .inl rfl
        case h_2 first rest found =>
          have takes := begin start (takes_group found)
          obtain none | others := ih false rest
          · rw [none]
            exact .inr takes
          · exact .inr (takes.trans others)

/-- The groups of an address and the colons among them are taken. -/
theorem takes_ipv6 {address : Ipv6} (read : ipv6 text = some (address, rest)) :
    Takes text rest := by
  simp only [ipv6] at read
  split at read
  case isTrue full =>
    obtain ⟨_, _, same⟩ := Option.map_eq_some_iff.mp read
    cases same
    obtain none | takes := takes_stretch 8 true text
    · rw [none] at full
      cases full
    · exact takes
  split at read
  · cases read
  · obtain ⟨inner, colons, read⟩ := Option.bind_eq_some_iff.mp read
    obtain ⟨second, first, colon⟩ := Option.bind_eq_some_iff.mp colons
    obtain ⟨_, _, same⟩ := Option.bind_eq_some_iff.mp read
    cases same
    have before : Takes text inner := by
      have colons := (takes_colon first).trans (takes_colon colon)
      obtain none | takes := takes_stretch 8 true text
      · rwa [none] at colons
      · exact takes.trans colons
    obtain none | takes :=
      takes_stretch (7 - (stretch 8 true text).groups.length) true inner
    · rwa [none]
    · exact before.trans takes

/-- A text that leaves nothing unread is taken. -/
theorem takes_whole {α : Type} {read : List Char → Option (α × List Char)} {spelled : String}
    {value : α} (takes : ∀ {rest}, read spelled.toList = some (value, rest) →
      Takes spelled.toList rest)
    (found : whole read spelled = some value) : Takes spelled.toList [] := by
  unfold whole at found
  split at found
  case h_1 read =>
    cases found
    exact takes read
  case h_2 => cases found

end Address.Reader

/-- The whole of a text that spells an address is taken by the reader. -/
theorem Ip.takes_of_parse {text : String} {address : Ip} (spells : Ip.parse text = some address) :
    Address.Reader.Takes text.toList [] := by
  unfold Ip.parse at spells
  split at spells
  case h_1 inner found => exact Address.Reader.takes_whole Address.Reader.takes_ipv4 found
  case h_2 =>
    obtain ⟨inner, found, -⟩ := Option.map_eq_some_iff.mp spells
    exact Address.Reader.takes_whole Address.Reader.takes_ipv6 found

end Outbound
