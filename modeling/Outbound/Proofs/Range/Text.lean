import Mathlib.Data.List.Induction
import Mathlib.Data.List.TakeWhile
import Outbound.Json.Ranges
import Outbound.Proofs.Json.Reading
import Outbound.Proofs.Steps

/-!
# Ranges and their texts

Which texts spell a range, and which range, is said by a grammar (`Range.Spells`) that does not
depend on how a text is read. The reader accepts the texts of the grammar and no others, and the
text written for a range is one of them (`Range.parse_grammar`).
-/
namespace Outbound

/-- A string of ASCII digits, at least one, and the number that it stands for. -/
inductive Numeral : List Char → Nat → Prop
  /-- A digit stands for its distance from zero. -/
  | digit {c : Char} (digit : '0' ≤ c ∧ c ≤ '9') : Numeral [c] (c.toNat - '0'.toNat)
  /-- A digit after others makes each of them worth ten times as much. -/
  | more {front : List Char} {n : Nat} {c : Char} (numeral : Numeral front n)
      (digit : '0' ≤ c ∧ c ≤ '9') : Numeral (front ++ [c]) (n * 10 + (c.toNat - '0'.toNat))

/-- The numerals are the strings of digits, read from the left. -/
theorem numeral_iff {digits : List Char} {n : Nat} :
    Numeral digits n ↔
      digits ≠ [] ∧ (∀ c ∈ digits, Decimal.IsDigit c) ∧ Decimal.value digits = n := by
  constructor
  · intro numeral
    induction numeral with
    | @digit c digit =>
      refine ⟨List.cons_ne_nil _ _, List.forall_mem_singleton.mpr digit, ?_⟩
      exact Nat.zero_add _
    | @more front n c numeral digit ih =>
      obtain ⟨-, all, value⟩ := ih
      refine ⟨List.append_ne_nil_of_right_ne_nil _ (List.cons_ne_nil _ _), ?_, ?_⟩
      · exact List.forall_mem_append.mpr ⟨all, List.forall_mem_singleton.mpr digit⟩
      · rw [Decimal.value_append_singleton, value]
        rfl
  · rintro ⟨some_digit, all, rfl⟩
    induction digits using List.reverseRecOn with
    | nil => exact absurd rfl some_digit
    | append_singleton front c ih =>
      obtain ⟨before, last⟩ := List.forall_mem_append.mp all
      have digit := List.forall_mem_singleton.mp last
      rw [Decimal.value_append_singleton]
      cases front with
      | nil =>
        have first := Numeral.digit digit
        rwa [← Nat.zero_add (c.toNat - '0'.toNat)] at first
      | cons first others => exact .more (ih (List.cons_ne_nil _ _) before) digit

/-- What is written for a number is a numeral of it. -/
theorem numeral_digits (n : Nat) : Numeral (Decimal.digits n) n :=
  numeral_iff.mpr ⟨Decimal.digits_ne_nil n, fun _ => Decimal.isDigit_of_mem_digits,
    Decimal.value_digits n⟩

namespace Json.Value

/-- No digit has to be escaped in a document. -/
theorem escape_of_isDigit {c : Char} (digit : Decimal.IsDigit c) : escape c = [c] := by
  have least : 48 ≤ c.toNat := digit.1
  have greatest : c.toNat ≤ 57 := digit.2
  have other : ∀ d : Char, ¬ (48 ≤ d.toNat ∧ d.toNat ≤ 57) → c ≠ d := by
    rintro d outside rfl
    exact outside ⟨least, greatest⟩
  have printable : ¬ c.toNat < 32 := by omega
  simp only [escape, other '"' (by decide), other '\\' (by decide),
    other '\x08' (by decide), other '\x0c' (by decide), other '\n' (by decide),
    other '\r' (by decide), other '\t' (by decide), printable, if_false]

/-- A text in which nothing has to be escaped stands in a document between quotes. -/
theorem render_text {content : String}
    (plain : content.toList.flatMap escape = content.toList) :
    (text content).render = "\"" ++ content ++ "\"" := by
  have mark : "\"".toList = ['"'] := by decide
  have quoted : quote (some content) = '"' :: (content.toList.flatMap escape ++ ['"']) := rfl
  apply String.toList_inj.mp
  rw [render, String.toList_ofList, text, print, quoted, plain, String.toList_append,
    String.toList_append, mark, List.singleton_append, List.cons_append]

end Json.Value

namespace Range

/-- The texts that spell a range: a numeral, or two with a hyphen between them of which the second
stands for no less than the first. The numbers are words. -/
inductive Spells : List Char → Range → Prop
  /-- A numeral spells the range of its number alone. -/
  | one {digits : List Char} {value : UInt64} (numeral : Numeral digits value.toNat) :
      Spells digits ⟨value, value, UInt64.le_refl value⟩
  /-- Two numerals spell the range from the first number to the second. -/
  | two {first second : List Char} {min max : UInt64} (low : Numeral first min.toNat)
      (high : Numeral second max.toNat) (ordered : min ≤ max) :
      Spells (first ++ '-' :: second) ⟨min, max, ordered⟩

/-! ## Reading -/

/-- A bound is read just if it is a numeral of a word. -/
theorem readBound_eq_ok_iff {bound : List Char} {value : UInt64} :
    readBound bound = .ok value ↔ Numeral bound value.toNat := by
  have malformed : (bound.isEmpty || bound.any fun c => !decide (Decimal.IsDigit c)) = true ↔
      ¬ (bound ≠ [] ∧ ∀ c ∈ bound, Decimal.IsDigit c) := by
    simp [Classical.or_iff_not_imp_left]
  rw [numeral_iff, ← and_assoc, readBound]
  by_cases formed : bound ≠ [] ∧ ∀ c ∈ bound, Decimal.IsDigit c
  · rw [if_neg fun bad => malformed.mp bad formed]
    constructor
    · intro found
      split at found
      · next small =>
        cases found
        exact ⟨formed, (UInt64.toNat_ofNat_of_lt' small).symm⟩
      · cases found
    · rintro ⟨-, same⟩
      rw [same, if_pos value.toNat_lt, UInt64.ofNat_toNat]
  · rw [if_pos (malformed.mpr formed)]
    constructor
    · intro found
      cases found
    · rintro ⟨numeral, -⟩
      exact absurd numeral formed

/-- No character of a numeral ends a bound. -/
theorem inBound_of_numeral {digits : List Char} {n : Nat} (numeral : Numeral digits n) :
    ∀ c ∈ digits, inBound c = true := by
  intro c mem
  have digit := (numeral_iff.mp numeral).2.1 c mem
  apply bne_iff_ne.mpr
  rintro rfl
  exact absurd digit (by decide)

/-- What follows a bound is a hyphen. -/
theorem eq_hyphen_of_dropWhile {characters others : List Char} {c : Char}
    (rest : characters.dropWhile inBound = c :: others) : c = '-' := by
  have ends := List.head?_dropWhile_not inBound characters
  rw [rest] at ends
  exact bne_eq_false_iff_eq.mp ends

/-- A range between two bounds has these bounds, in order. -/
theorem exists_ordered_of_between {min max : UInt64} {range : Range}
    (found : between min max = .ok range) : ∃ ordered : min ≤ max, range = ⟨min, max, ordered⟩ := by
  unfold between at found
  split at found
  · next ordered =>
    cases found
    exact ⟨ordered, rfl⟩
  · cases found

/-- A text of the grammar is read as the range that it spells. -/
theorem read_of_spells {characters : List Char} {range : Range}
    (spells : Spells characters range) : read characters = .ok range := by
  cases spells with
  | @one digits value numeral =>
    have inside := inBound_of_numeral numeral
    have some_digit := (numeral_iff.mp numeral).1
    rw [read, if_neg some_digit, List.takeWhile_eq_self_iff.mpr inside,
      List.dropWhile_eq_nil_iff.mpr inside, readBound_eq_ok_iff.mpr numeral]
    rfl
  | @two first second min max low high ordered =>
    have before := inBound_of_numeral low
    have after := inBound_of_numeral high
    have stops : Stops inBound ('-' :: second) := .cons (by decide)
    rw [read, if_neg (by simp), stops.takeWhile_append before, stops.dropWhile_append before,
      readBound_eq_ok_iff.mpr low]
    simp only [bind, Except.bind, List.takeWhile_eq_self_iff.mpr after,
      List.dropWhile_eq_nil_iff.mpr after, readBound_eq_ok_iff.mpr high, if_pos]
    exact dif_pos ordered

/-- A text that is read as a range spells it. -/
theorem spells_of_read {characters : List Char} {range : Range}
    (found : read characters = .ok range) : Spells characters range := by
  unfold read at found
  split at found
  · cases found
  · obtain ⟨min, first, found⟩ := bind_eq_ok.mp found
    have low := readBound_eq_ok_iff.mp first
    have whole := List.takeWhile_append_dropWhile (p := inBound) (l := characters)
    split at found
    case h_1 ended =>
      cases found
      rw [ended, List.append_nil] at whole
      rw [← whole]
      exact .one low
    case h_2 mark others more =>
      obtain ⟨max, second, found⟩ := bind_eq_ok.mp found
      have high := readBound_eq_ok_iff.mp second
      split at found
      · next ended =>
        obtain ⟨ordered, rfl⟩ := exists_ordered_of_between found
        have last : others.takeWhile inBound = others := by
          rw [← List.append_nil (others.takeWhile inBound), ← ended,
            List.takeWhile_append_dropWhile]
        rw [last] at high
        rw [more] at whole
        rw [← whole, eq_hyphen_of_dropWhile more]
        exact .two low high ordered
      · cases found

/-- A text is read as a range just if it spells it. -/
theorem parse_eq_ok_iff {text : String} {range : Range} :
    parse text = .ok range ↔ Spells text.toList range := by
  rw [parse, mapError_eq_ok]
  exact ⟨spells_of_read, read_of_spells⟩

/-! ## Writing -/

/-- The text of a range spells it. -/
theorem spells_text (range : Range) : Spells range.text.toList range := by
  obtain ⟨min, max, ordered⟩ := range
  unfold text
  split
  case isTrue same =>
    cases same
    rw [Decimal.text, String.toList_ofList]
    exact .one (numeral_digits _)
  case isFalse =>
    simp only [boundsText, Decimal.text, String.toList_append, String.toList_ofList,
      List.append_assoc]
    exact .two (numeral_digits _) (numeral_digits _) ordered

/-- The text of a range is read as the range. -/
theorem parse_text (range : Range) : parse range.text = .ok range :=
  parse_eq_ok_iff.mpr range.spells_text

/-- A text that spells a range stands in a document as it is. -/
theorem flatMap_escape_of_spells {characters : List Char} {range : Range}
    (spells : Spells characters range) :
    characters.flatMap Json.Value.escape = characters := by
  have plain : ∀ c ∈ characters, Json.Value.escape c = [c] := by
    intro c mem
    cases spells with
    | one numeral => exact Json.Value.escape_of_isDigit ((numeral_iff.mp numeral).2.1 c mem)
    | two low high =>
      obtain first | rest := List.mem_append.mp mem
      · exact Json.Value.escape_of_isDigit ((numeral_iff.mp low).2.1 c first)
      · obtain rfl | second := List.mem_cons.mp rest
        · rfl
        · exact Json.Value.escape_of_isDigit ((numeral_iff.mp high).2.1 c second)
  rw [List.flatMap_congr plain, List.flatMap_singleton']

/-- The document of a range is its text between quotes. -/
theorem toDocument_eq (range : Range) : range.toDocument = "\"" ++ range.text ++ "\"" :=
  Json.Value.render_text (flatMap_escape_of_spells range.spells_text)

/-- The document of a range is read as the range. -/
theorem ofDocument_toDocument (range : Range) : ofDocument range.toDocument = .ok range := by
  rw [ofDocument, toDocument, Json.readFirst_render _ rfl, Json.Value.text]
  simp only [parse_text]
  rfl

/-- Reading ranges is exact and agrees with writing them. A text is read as a range just if it
spells it, and an error quotes the text. The text of a range is read as the range, and so is the
string that stands for it in a document; hence what is written for a range that was read is read as
this range and written again as it is. Whatever is drawn from a range that was read is a member of
it, and nothing is drawn where there is only one. -/
theorem parse_grammar :
    (∀ text range, parse text = .ok range ↔ Spells text.toList range) ∧
    (∀ text error, parse text = .error error → ∃ reason, error = .invalidRange text reason) ∧
    (∀ range, parse range.text = .ok range) ∧
    (∀ range, range.toDocument = "\"" ++ range.text ++ "\"" ∧
      ofDocument range.toDocument = .ok range) ∧
    (∀ text range, parse text = .ok range → parse range.text = .ok range ∧
      ∀ again, parse range.text = .ok again → again.text = range.text) ∧
    ∀ text range, parse text = .ok range → ∀ entropy,
      (range.min.toNat ≤ (range.draw entropy).1 ∧ (range.draw entropy).1 ≤ range.max.toNat) ∧
        (range.min = range.max → range.draw entropy = (range.min.toNat, entropy)) := by
  refine ⟨fun _ _ => parse_eq_ok_iff, fun text error failed => ?_, parse_text,
    fun range => ⟨range.toDocument_eq, range.ofDocument_toDocument⟩, fun _ range _ => ?_,
    fun _ range _ entropy => ⟨range.draw_mem entropy, fun same => ?_⟩⟩
  · obtain ⟨fault, -, rfl⟩ := mapError_eq_error.mp failed
    exact ⟨_, rfl⟩
  · refine ⟨range.parse_text, fun again found => ?_⟩
    rw [parse_text] at found
    cases found
    rfl
  · rw [draw, ← same, Entropy.between_self]

end Range

end Outbound
