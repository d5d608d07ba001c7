import Outbound.Address.Endpoint
import Outbound.Proofs.Address.Alphabet
import Outbound.Proofs.Address.Text

/-!
# Endpoints and their texts

An endpoint is spelled by the text of its address, and its port after a colon; an address of the
sixth version stands between brackets (`Endpoint.parse_v4`, `Endpoint.parse_v6`). Any text of the
address will do. What a reader of addresses finds in a text does not depend on what follows, if that
starts with a character that no address goes on with (`Undisturbed`).
-/
namespace Outbound

namespace Address.Reader

variable {α β : Type} {after : List Char}

/-- What a reader finds in a text it also finds when something follows, and that is then left. -/
def Undisturbed (read : List Char → Option (α × List Char)) (after : List Char) : Prop :=
  ∀ text, read (text ++ after) = (read text).map fun found => (found.1, found.2 ++ after)

namespace Undisturbed

/-- A reader after another. -/
theorem bind {first : List Char → Option (α × List Char)}
    {second : α → List Char → Option (β × List Char)} (front : Undisturbed first after)
    (rest : ∀ found, Undisturbed (second found) after) :
    Undisturbed (fun text => first text >>= fun found => second found.1 found.2) after := by
  intro text
  dsimp only
  rw [front text]
  cases first text with
  | none => rfl
  | some found => exact rest found.1 found.2

/-- Nothing more is read. -/
theorem pure (found : α) : Undisturbed (fun text => some (found, text)) after := fun _ => rfl

/-- A reader whose finding is changed. -/
theorem map {read : List Char → Option (α × List Char)} (same : Undisturbed read after)
    (change : α → β) :
    Undisturbed (fun text => (read text).map fun found => (change found.1, found.2)) after := by
  intro text
  dsimp only
  rw [same text, Option.map_map, Option.map_map]
  rfl

end Undisturbed

/-- A character is expected before what follows, if that does not start with it. -/
theorem expect_append {c : Char} (other : after.head? ≠ some c) (text : List Char) :
    expect c (text ++ after) = (expect c text).map (· ++ after) := by
  cases text with
  | nil =>
    rw [List.nil_append, expect, if_neg other]
    rfl
  | cons first text =>
    rw [List.cons_append, expect, expect, List.head?_cons, List.head?_cons]
    split <;> rfl

/-- A reader after a character that is expected. -/
theorem Undisturbed.expect {c : Char} {read : List Char → Option (α × List Char)}
    (other : after.head? ≠ some c) (same : Undisturbed read after) :
    Undisturbed (fun text => Reader.expect c text >>= read) after := by
  intro text
  dsimp only
  rw [expect_append other text]
  cases Reader.expect c text with
  | none => rfl
  | some rest => exact same rest

/-- A number. -/
theorem undisturbed_number {value? : Char → Option Nat}
    (stops : Stops (fun c => (value? c).isSome) after) (base most limit : Nat) :
    Undisturbed (number value? base most limit) after := by
  intro text
  have taken : (text ++ after).takeWhile (fun c => (value? c).isSome) =
      text.takeWhile fun c => (value? c).isSome := by
    rw [List.takeWhile_append]
    split
    case isTrue all =>
      have whole := (List.takeWhile_prefix fun c => (value? c).isSome).eq_of_length all
      rw [stops.takeWhile_eq_nil, List.append_nil, whole]
    case isFalse => rfl
  have within := (List.takeWhile_prefix (fun c => (value? c).isSome) (l := text)).length_le
  simp only [number, taken]
  split
  · rfl
  · rw [List.drop_append_of_le_length within]
    rfl

/-- An octet. -/
theorem undisturbed_octet (stops : Stops (fun c => (decimal? c).isSome) after) :
    Undisturbed octet after := by
  intro text
  have read := undisturbed_number stops 10 3 256 text
  rw [octet, octet, read]
  rcases found : number decimal? 10 3 256 text with - | ⟨value, rest⟩
  · rfl
  · have head : (text ++ after).head? = text.head? := by
      cases text with
      | nil => exact absurd found (by simp [number])
      | cons c text => rfl
    have length : (text ++ after).length ≠ (rest ++ after).length + 1 ↔
        text.length ≠ rest.length + 1 := by
      rw [List.length_append, List.length_append]
      omega
    simp only [Option.map_some, Option.bind_eq_bind, Option.bind_some, head, length]
    split <;> rfl

/-- An address of the fourth version. -/
theorem undisturbed_ipv4 (digits : Stops (fun c => (decimal? c).isSome) after)
    (dot : after.head? ≠ some '.') : Undisturbed ipv4 after := by
  have first := undisturbed_octet digits
  have next := first.expect dot
  exact first.bind fun a => next.bind fun b => next.bind fun c => next.bind fun d =>
    .pure (⟨a, b, c, d⟩ : Ipv4)

/-- A group. -/
theorem undisturbed_group (digits : Stops (fun c => (Hex.digitValue? c).isSome) after) :
    Undisturbed group after :=
  (undisturbed_number digits 16 4 65536).map UInt16.ofNat

/-- A text that starts with no character of an address. -/
def Foreign (after : List Char) : Prop := ∀ c, after.head? = some c → ¬InAlphabet c

namespace Foreign

/-- A character that no address has. -/
theorem cons {c : Char} (outside : ¬InAlphabet c) : Foreign (c :: after) := by
  intro other same
  cases same
  exact outside

variable (foreign : Foreign after)

include foreign

/-- It does not start with a digit of a group. -/
theorem digits : Stops (fun c => (Hex.digitValue? c).isSome) after := by
  intro c first
  exact Bool.eq_false_iff.mpr fun digit => foreign c first (.inl digit)

/-- It does not start with a digit of an octet. -/
theorem decimals : Stops (fun c => (decimal? c).isSome) after := by
  intro c first
  exact Bool.eq_false_iff.mpr fun digit => foreign c first (.inl (isSome_digitValue? digit))

/-- It does not start with a dot. -/
theorem dot : after.head? ≠ some '.' := fun first => foreign '.' first (.inr (.inl rfl))

/-- It does not start with a colon. -/
theorem colon : after.head? ≠ some ':' := fun first => foreign ':' first (.inr (.inr rfl))

end Foreign

/-- A stretch of groups leaves what follows. -/
theorem stretch_append (foreign : Foreign after) (room : Nat) (isFirst : Bool) (text : List Char) :
    stretch room isFirst (text ++ after) =
      { stretch room isFirst text with rest := (stretch room isFirst text).rest ++ after } := by
  have tail := undisturbed_ipv4 foreign.decimals foreign.dot
  have group := undisturbed_group foreign.digits
  induction room generalizing isFirst text with
  | zero => rfl
  | succ room ih =>
    have start : (if isFirst then some (text ++ after) else expect ':' (text ++ after)) =
        (if isFirst then some text else expect ':' text).map (· ++ after) := by
      cases isFirst with
      | true => rfl
      | false => exact expect_append foreign.colon text
    rw [stretch, stretch, start]
    rcases (if isFirst then some text else expect ':' text) with - | body
    · rfl
    · have dotted : (if room = 0 then none else ipv4 (body ++ after)) =
          (if room = 0 then none else ipv4 body).map fun found =>
            (found.1, found.2 ++ after) := by
        split
        · rfl
        · exact tail body
      simp only [Option.map_some, dotted]
      rcases (if room = 0 then none else ipv4 body) with - | ⟨address, rest⟩
      · simp only [Option.map_none, group body]
        rcases Reader.group body with - | ⟨first, rest⟩
        · rfl
        · simp only [Option.map_some, ih]
      · rfl

/-- Two colons are expected before what follows. -/
theorem colons_append (foreign : Foreign after) (text : List Char) :
    (expect ':' (text ++ after) >>= expect ':') =
      (expect ':' text >>= expect ':').map (· ++ after) := by
  rw [expect_append foreign.colon text]
  cases expect ':' text with
  | none => rfl
  | some rest => exact expect_append foreign.colon rest

/-- An address of the sixth version. -/
theorem undisturbed_ipv6 (foreign : Foreign after) : Undisturbed ipv6 after := by
  intro text
  simp only [ipv6, stretch_append foreign, colons_append foreign]
  generalize stretch 8 true text = head
  split
  · cases ofGroups head.groups <;> rfl
  · split
    · rfl
    · rcases (expect ':' head.rest >>= expect ':') with - | rest
      · rfl
      · simp only [Option.map_some, Option.bind_eq_bind, Option.bind_some, stretch_append foreign]
        generalize stretch (7 - head.groups.length) true rest = tail
        cases ofGroups (head.groups ++
          List.replicate (8 - head.groups.length - tail.groups.length) 0 ++ tail.groups) <;> rfl

/-- A port after a colon is read to the end of a text. -/
theorem port_digits (value : UInt16) :
    port (':' :: Decimal.digits value.toNat) = some (value, []) := by
  have read : number decimal? 10 (Decimal.digits value.toNat).length 65536
      (Decimal.digits value.toNat ++ []) = some (value.toNat, []) :=
    number_digits .nil (Nat.le_refl _) value.toNat_lt
  rw [List.append_nil] at read
  simp only [port, expect_cons, Option.bind_eq_bind, Option.bind_some, read, UInt16.ofNat_toNat]

/-- An address of the fourth version, a colon and a port. -/
theorem endpoint4_of_ipv4 {text : List Char} {address : Ipv4}
    (read : ipv4 text = some (address, [])) (value : UInt16) :
    endpoint4 (text ++ ':' :: Decimal.digits value.toNat) =
      some (⟨.v4 address, value, 0⟩, []) := by
  have stops : Stops (fun c => (decimal? c).isSome) (':' :: Decimal.digits value.toNat) :=
    .cons (by decide)
  have other : (':' :: Decimal.digits value.toNat).head? ≠ some '.' := by simp
  simp only [endpoint4, undisturbed_ipv4 stops other text, read, Option.map_some,
    Option.bind_eq_bind, Option.bind_some, List.nil_append, port_digits]

/-- An address of the sixth version between brackets, a colon and a port. -/
theorem endpoint6_of_ipv6 {text : List Char} {address : Ipv6}
    (read : ipv6 text = some (address, [])) (value : UInt16) :
    endpoint6 ('[' :: (text ++ ']' :: ':' :: Decimal.digits value.toNat)) =
      some (⟨.v6 address, value, 0⟩, []) := by
  have foreign : Foreign (']' :: ':' :: Decimal.digits value.toNat) :=
    .cons (by rintro (digit | dot | colon) <;> contradiction)
  have unscoped : scope (']' :: ':' :: Decimal.digits value.toNat) =
      (0, ']' :: ':' :: Decimal.digits value.toNat) := rfl
  simp only [endpoint6, expect_cons, undisturbed_ipv6 foreign text, read, Option.map_some,
    Option.bind_eq_bind, Option.bind_some, List.nil_append, unscoped, port_digits]

/-- What starts with a bracket is no endpoint of the fourth version. -/
theorem endpoint4_bracket (text : List Char) : endpoint4 ('[' :: text) = none := by
  have stops : Stops (fun c => (decimal? c).isSome) ('[' :: text) := .cons (by decide)
  rw [endpoint4, ipv4, octet_none stops]
  rfl

/-- A text spells what a reader finds in it when nothing is left. -/
theorem whole_eq_some {read : List Char → Option (α × List Char)} {text : String} {found : α} :
    whole read text = some found ↔ read text.toList = some (found, []) := by
  rw [whole]
  constructor
  · intro spells
    split at spells
    · cases spells
      assumption
    · cases spells
  · intro spells
    rw [spells]

end Address.Reader

namespace Endpoint

open Address.Reader

/-- A text of an address of the fourth version, a colon and a port spell an endpoint. -/
theorem parse_v4 {text : String} {address : Ipv4} (spells : Ipv4.parse text = some address)
    (port : UInt16) :
    Endpoint.parse (text ++ ":" ++ Decimal.text port.toNat) = some ⟨.v4 address, port, 0⟩ := by
  have layout : (text ++ ":" ++ Decimal.text port.toNat).toList =
      text.toList ++ ':' :: Decimal.digits port.toNat := by
    simp [Decimal.text]
  have read := endpoint4_of_ipv4 (whole_eq_some.mp spells) port
  rw [← layout] at read
  rw [Endpoint.parse, whole_eq_some.mpr read]

/-- A text of an address of the sixth version between brackets, a colon and a port spell an
endpoint. -/
theorem parse_v6 {text : String} {address : Ipv6} (spells : Ipv6.parse text = some address)
    (port : UInt16) :
    Endpoint.parse ("[" ++ text ++ "]:" ++ Decimal.text port.toNat) =
      some ⟨.v6 address, port, 0⟩ := by
  have layout : ("[" ++ text ++ "]:" ++ Decimal.text port.toNat).toList =
      '[' :: (text.toList ++ ']' :: ':' :: Decimal.digits port.toNat) := by
    simp [Decimal.text]
  have other : whole endpoint4 ("[" ++ text ++ "]:" ++ Decimal.text port.toNat) = none := by
    rw [whole, layout, endpoint4_bracket]
  have read := endpoint6_of_ipv6 (whole_eq_some.mp spells) port
  rw [← layout] at read
  rw [Endpoint.parse, other, whole_eq_some.mpr read]

end Endpoint

end Outbound
