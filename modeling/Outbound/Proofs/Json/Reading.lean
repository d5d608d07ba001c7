import Mathlib.Data.List.Basic
import Outbound.Json.Reader
import Outbound.Proofs.Numeral

/-!
# Reading what was printed

The text of a value is read as that value (`parse_render`), whatever its strings contain. The one
condition is on numbers with a sign, decimals or a power of ten: a word has to hold their digits, as
it does for every number that was read (`Real.digits_ofNumeral_lt`).
-/
namespace Outbound.Json

namespace Reader

open Value

/-! ## Strings -/

/-- A piece that spells one character. -/
def Spells (piece : Piece) (c : Char) : Prop :=
  ∀ rest, spell (piece :: rest) = (spell rest).map (c :: ·)

/-- The unit of a control character spells it. -/
theorem spells_unit {c : Char} (control : c.toNat < 32) : Spells (.unit c.toNat) c := by
  have leading : isLeading c.toNat = false := by simp [isLeading]; omega
  have trailing : isTrailing c.toNat = false := by simp [isTrailing]; omega
  intro rest
  rcases rest with _ | ⟨_ | second, rest⟩
  all_goals simp [spell, leading, trailing]

/-- The unit of two digits after two zeros. -/
theorem unit?_digits {n : Nat} (small : n < 32) :
    unit? '0' '0' (Hex.digit (n / 16)) (Hex.digit (n % 16)) = some n := by
  have zero : Hex.digitValue? '0' = some 0 := rfl
  have high := Hex.digitValue?_digit (show n / 16 < 16 by omega)
  have low := Hex.digitValue?_digit (show n % 16 < 16 by omega)
  have whole : 0 * 4096 + 0 * 256 + n / 16 * 16 + n % 16 = n := by omega
  simp only [unit?, zero, high, low, Option.bind_eq_bind, Option.bind_some, whole]

/-- A character is read from its escaped form. -/
theorem exists_pieces_escape (c : Char) :
    ∃ piece, Spells piece c ∧ ∀ text, pieces (escape c ++ text) =
      (pieces text).map fun (others, rest) => (piece :: others, rest) := by
  have plain : Spells (.plain c) c := fun rest => by rw [spell]
  have short : ∀ mark, shortEscape? mark = some c → mark ≠ 'u' → ∀ text,
      pieces ('\\' :: mark :: text) =
        (pieces text).map fun (others, rest) => (.plain c :: others, rest) := by
    intro mark found long text
    rw [pieces.eq_def]
    split
    case h_1 same => cases same
    case h_2 same => cases same
    case h_3 same => cases same; exact absurd rfl long
    case h_4 same =>
      cases same
      rw [found]
      cases pieces text <;> rfl
    case h_5 other same =>
      cases same
      exact absurd rfl (other _ _ rfl)
  rw [escape]
  split
  · subst_vars
    exact ⟨_, plain, short '"' rfl (by decide)⟩
  split
  · subst_vars
    exact ⟨_, plain, short '\\' rfl (by decide)⟩
  split
  · subst_vars
    exact ⟨_, plain, short 'b' rfl (by decide)⟩
  split
  · subst_vars
    exact ⟨_, plain, short 'f' rfl (by decide)⟩
  split
  · subst_vars
    exact ⟨_, plain, short 'n' rfl (by decide)⟩
  split
  · subst_vars
    exact ⟨_, plain, short 'r' rfl (by decide)⟩
  split
  · subst_vars
    exact ⟨_, plain, short 't' rfl (by decide)⟩
  split
  case isTrue control =>
    refine ⟨_, spells_unit control, fun text => ?_⟩
    simp only [List.cons_append, List.nil_append, pieces, unit?_digits control]
    cases pieces text <;> rfl
  case isFalse unquoted unescaped _ _ _ _ _ printable =>
    refine ⟨_, plain, fun text => ?_⟩
    rw [List.singleton_append, pieces.eq_def]
    split
    case h_1 same => cases same
    case h_2 same => cases same; exact absurd rfl unquoted
    case h_3 same => cases same; exact absurd rfl unescaped
    case h_4 same => cases same; exact absurd rfl unescaped
    case h_5 same =>
      cases same
      rw [if_neg printable]
      cases pieces text <;> rfl

/-- The characters of a string are read from their escaped forms. -/
theorem exists_pieces_content (content rest : List Char) :
    ∃ found, pieces (content.flatMap escape ++ '"' :: rest) = some (found, rest) ∧
      spell found = some content := by
  induction content with
  | nil =>
    refine ⟨[], ?_, rfl⟩
    rw [List.flatMap_nil, List.nil_append, pieces]
  | cons c content ih =>
    obtain ⟨others, read, spelled⟩ := ih
    obtain ⟨piece, spells, escaped⟩ := exists_pieces_escape c
    refine ⟨piece :: others, ?_, ?_⟩
    · rw [List.flatMap_cons, List.append_assoc, escaped, read]
      rfl
    · rw [spells, spelled]
      rfl

/-- A string is read from its quoted form, also one that holds no text. -/
theorem string_quote (content : Option String) {quoted : List Char}
    (opened : quote content = '"' :: quoted) (rest : List Char) :
    string (quoted ++ rest) = some (content, rest) := by
  cases content with
  | none =>
    have half : "\"\\ud800\"".toList = ['"', '\\', 'u', 'd', '8', '0', '0', '"'] := by decide
    obtain ⟨-, rfl⟩ := List.cons.inj (half.symm.trans opened)
    have unit : unit? 'd' '8' '0' '0' = some 0xd800 := by decide
    simp [string, pieces, unit, spell, isLeading]
  | some content =>
    obtain ⟨-, rfl⟩ := List.cons.inj opened
    obtain ⟨found, read, spelled⟩ := exists_pieces_content content.toList rest
    rw [List.append_assoc]
    simp only [string, List.singleton_append, read, Option.map_some, spelled, String.ofList_toList]

/-- A quoted form starts with a quote. -/
theorem exists_quote (content : Option String) : ∃ quoted, quote content = '"' :: quoted := by
  cases content <;> exact ⟨_, rfl⟩

/-! ## Numbers -/

/-- Whether a number goes on with a character. -/
def inNumber (c : Char) : Bool := isDigit c || c == '.' || c == 'e' || c == 'E'

/-- Whether a number starts with a character. -/
def opensNumber (c : Char) : Bool := isDigit c || c == '-'

/-- A digit goes on. -/
theorem inNumber_of_isDigit {c : Char} (digit : isDigit c = true) : inNumber c = true := by
  rw [inNumber, digit]
  rfl

/-- What ends a number ends its digits. -/
theorem stops_isDigit {rest : List Char} (ends : Stops inNumber rest) : Stops isDigit rest := by
  intro c found
  by_contra digit
  have goes := inNumber_of_isDigit (eq_true_of_ne_false digit)
  rw [ends c found] at goes
  cases goes

/-- A numeral has no zero in front. -/
theorem no_leading_zero (n : Nat) :
    ¬ (Decimal.digits n = [] ∨
      (Decimal.digits n).head? = some '0' ∧ Decimal.digits n ≠ ['0']) := by
  rintro (none | ⟨zero, long⟩)
  · exact Decimal.digits_ne_nil n none
  · have value := Decimal.eq_zero_of_head_digits zero
    subst value
    exact long Decimal.digits_zero

/-- A numeral starts with a digit. -/
theorem head_digits_ne (n : Nat) (rest : List Char) {c : Char} (other : isDigit c = false) :
    ((Decimal.digits n ++ rest).head? == some c) = false := by
  obtain ⟨first, others, digits⟩ := List.exists_cons_of_ne_nil (Decimal.digits_ne_nil n)
  have digit : isDigit first = true :=
    decide_eq_true (Decimal.isDigit_of_mem_digits (by rw [digits]; exact List.mem_cons_self ..))
  rw [digits, List.cons_append, List.head?_cons]
  apply Bool.eq_false_iff.mpr
  intro same
  cases eq_of_beq same
  rw [digit] at other
  cases other

/-- The digits of a numeral. -/
theorem isDigit_of_mem {n : Nat} : ∀ c ∈ Decimal.digits n, isDigit c = true :=
  fun _ mem => decide_eq_true (Decimal.isDigit_of_mem_digits mem)

/-- No decimals follow where a number ends. -/
theorem fraction_none {rest : List Char} (point : rest.head? ≠ some '.') :
    fraction rest = some ([], rest) := by
  rw [fraction.eq_def]
  split
  · exact absurd rfl point
  · rfl

/-- A number is read from its numeral. -/
theorem number_digits (n : Nat) {rest : List Char} (ends : Stops inNumber rest) :
    number (Decimal.digits n ++ rest) = some (.nat n, rest) := by
  have digits := stops_isDigit ends
  have decimals : fraction rest = some ([], rest) := by
    refine fraction_none fun point => ?_
    have goes := ends _ point
    revert goes
    decide
  have power : exponent rest = some (none, rest) := by
    rw [exponent.eq_def]
    split
    case h_1 mark rest =>
      rw [if_neg]
      have stop := ends mark rfl
      rintro (rfl | rfl) <;> (revert stop; decide)
    case h_2 => rfl
  have minus := head_digits_ne n rest (c := '-') (by decide)
  simp only [number, minus, Bool.false_eq_true, if_false,
    digits.takeWhile_append isDigit_of_mem, digits.dropWhile_append isDigit_of_mem,
    if_neg (no_leading_zero n), decimals, power, Option.bind_eq_bind, Option.bind_some]
  simp [Decimal.value_digits]

/-- A power of ten is read from its text. -/
theorem exponent_digits (power : Int) {rest : List Char} (ends : Stops inNumber rest) :
    exponent ('e' :: ((if power < 0 then ['-'] else []) ++ (Decimal.digits power.natAbs ++ rest))) =
      some (some power, rest) := by
  have digits := stops_isDigit ends
  have plus := head_digits_ne power.natAbs rest (c := '+') (by decide)
  have minus := head_digits_ne power.natAbs rest (c := '-') (by decide)
  have value := Decimal.value_digits power.natAbs
  by_cases negative : power < 0
  · have size : -(power.natAbs : Int) = power := by omega
    have marked : (('-' :: (Decimal.digits power.natAbs ++ rest)).head? == some '-') = true := rfl
    have head : (('-' :: (Decimal.digits power.natAbs ++ rest)).head? == some '+') = false := rfl
    simp only [exponent, if_pos negative, List.cons_append, List.nil_append, marked, head,
      Bool.true_or, if_true, if_false, List.tail_cons, digits.takeWhile_append isDigit_of_mem,
      digits.dropWhile_append isDigit_of_mem, Decimal.digits_ne_nil, value, size, true_or]
  · have size : (power.natAbs : Int) = power := by omega
    simp only [exponent, if_neg negative, List.nil_append, minus, plus, Bool.or_false,
      Bool.false_eq_true, if_false, digits.takeWhile_append isDigit_of_mem,
      digits.dropWhile_append isDigit_of_mem, Decimal.digits_ne_nil, value, size, true_or, if_true]

/-- A number whose digits a word holds is told from its numeral. -/
theorem ofNumeral_digits (value : Real) (fits : value.digits < UInt64.size) :
    Real.ofNumeral value.negative (Decimal.digits value.digits) [] value.scale = value := by
  have digits : Real.append 0 (Decimal.digits value.digits) = (value.digits, []) := by
    have whole := Decimal.value_digits value.digits
    rw [Decimal.value] at whole
    rw [Real.append_of_lt _ _ (by rw [whole]; exact fits), whole]
  simp [Real.ofNumeral, digits, Real.append]

/-- A number is read from its text, if a word holds its digits. -/
theorem number_print (value : Real) (fits : value.digits < UInt64.size) {rest : List Char}
    (ends : Stops inNumber rest) : number (value.print ++ rest) = some (.real value, rest) := by
  have mark : ∀ text, Stops isDigit ('e' :: text) := fun text => .cons (by decide)
  have decimals : ∀ text, fraction ('e' :: text) = some ([], 'e' :: text) :=
    fun text => fraction_none (by simp)
  have power := exponent_digits value.scale ends
  have same := ofNumeral_digits value fits
  have minus := fun text => head_digits_ne value.digits text (c := '-') (by decide)
  have starts := no_leading_zero value.digits
  rcases value with ⟨_ | _, digits, scale⟩
  · simp only [number, Real.print, Bool.false_eq_true, if_false, List.nil_append,
      List.append_assoc, List.cons_append, minus, (mark _).takeWhile_append isDigit_of_mem,
      (mark _).dropWhile_append isDigit_of_mem, if_neg starts, decimals, power,
      Option.bind_eq_bind, Option.bind_some]
    simpa using same
  · simp only [number, Real.print, if_true, List.append_assoc, List.cons_append, List.nil_append,
      List.head?_cons, beq_self_eq_true, List.tail_cons, (mark _).takeWhile_append isDigit_of_mem,
      (mark _).dropWhile_append isDigit_of_mem, if_neg starts, decimals, power,
      Option.bind_eq_bind, Option.bind_some]
    simpa using same

/-! ## Values -/

/-- A character that ends an item does not go on with a number. -/
theorem stops_cons {c : Char} (ends : c = ',' ∨ c = ']' ∨ c = '\x7d') (rest : List Char) :
    Stops inNumber (c :: rest) := by
  obtain rfl | rfl | rfl := ends <;> exact .cons (by decide)

/-- No blank stands before a character that is none. -/
theorem skip_cons {c : Char} (token : isBlank c = false) (rest : List Char) :
    skip (c :: rest) = c :: rest := by
  rw [skip, List.dropWhile_cons, if_neg (by rw [token]; decide)]

/-- What no number starts with differs from what one starts with. -/
theorem ne_of_opensNumber {c : Char} (starts : opensNumber c = true) (other : Char)
    (differs : opensNumber other = false) : c ≠ other := by
  rintro rfl
  rw [starts] at differs
  cases differs

/-- A number starts with no blank. -/
theorem isBlank_of_opensNumber {c : Char} (starts : opensNumber c = true) : isBlank c = false := by
  apply Bool.eq_false_iff.mpr
  intro blank
  simp only [isBlank, Bool.or_eq_true, beq_iff_eq] at blank
  obtain ((blank | blank) | blank) | blank := blank <;>
    exact ne_of_opensNumber starts _ (by decide) blank

/-- The text of a number starts like one. -/
theorem exists_digits (n : Nat) :
    ∃ c rest, Decimal.digits n = c :: rest ∧ opensNumber c = true := by
  obtain ⟨first, others, digits⟩ := List.exists_cons_of_ne_nil (Decimal.digits_ne_nil n)
  have digit : isDigit first = true :=
    isDigit_of_mem _ (by rw [digits]; exact List.mem_cons_self ..)
  exact ⟨first, others, digits, by rw [opensNumber, digit]; rfl⟩

/-- The text of a number with a sign, decimals or a power of ten starts like one, too. -/
theorem exists_real (value : Real) :
    ∃ c rest, value.print = c :: rest ∧ opensNumber c = true := by
  rcases value with ⟨_ | _, digits, scale⟩
  · obtain ⟨c, rest, digits, starts⟩ := exists_digits digits
    simp only [Real.print, Bool.false_eq_true, if_false, List.nil_append, digits, List.cons_append]
    exact ⟨c, _, rfl, starts⟩
  · exact ⟨'-', _, rfl, by decide⟩

/-- A text that starts with a digit or a minus sign is a number. -/
theorem value_number {text : List Char} {c : Char} {rest : List Char} (opened : text = c :: rest)
    (starts : opensNumber c = true) (fuel : Nat) : value (fuel + 1) text = number text := by
  subst opened
  rw [value, skip_cons (isBlank_of_opensNumber starts)]
  have differs := ne_of_opensNumber starts
  split
  case h_1 same => cases same
  case h_2 same => exact absurd (List.cons.inj same).1 (differs _ (by decide))
  case h_3 same => exact absurd (List.cons.inj same).1 (differs _ (by decide))
  case h_4 same => exact absurd (List.cons.inj same).1 (differs _ (by decide))
  case h_5 same => exact absurd (List.cons.inj same).1 (differs _ (by decide))
  case h_6 same => exact absurd (List.cons.inj same).1 (differs _ (by decide))
  case h_7 same => exact absurd (List.cons.inj same).1 (differs _ (by decide))
  case h_8 => rfl

/-- A keyword is read up to its end. -/
theorem keyword?_append (word rest : List Char) : keyword? word (word ++ rest) = some rest := by
  rw [keyword?, if_pos (List.isPrefixOf_iff_prefix.mpr (List.prefix_append word rest)),
    List.drop_left]

/-- A text that starts with a bracket is an array of the items after it, if there are any. -/
theorem value_array {c : Char} {text rest : List Char} {found : List Value} {fuel : Nat}
    (token : isBlank c = false) (differs : c ≠ ']')
    (read : items fuel (c :: text) = some (found, rest)) :
    value (fuel + 1) ('[' :: c :: text) = some (.array found, rest) := by
  rw [value, skip_cons (by decide)]
  simp only [read, Option.map_some]
  rw [skip_cons token]
  split
  case h_1 same => exact absurd (List.cons.inj same).1 differs
  case h_2 => rfl

/-- A text that starts with a brace is an object of the members after it, if there are any. -/
theorem value_object {text rest : List Char} {found : List (Option String × Value)} {fuel : Nat}
    (read : members fuel ('"' :: text) = some (found, rest)) :
    value (fuel + 1) ('\x7b' :: '"' :: text) = some (.object found, rest) := by
  rw [value, skip_cons (by decide)]
  simp only [read, Option.map_some]
  rw [skip_cons (by decide)]
  split
  case h_1 same => exact absurd (List.cons.inj same).1 (by decide)
  case h_2 => rfl

/-- A value starts with a character that is no blank and no closing bracket. -/
theorem exists_print (v : Value) :
    ∃ c rest, v.print = c :: rest ∧ isBlank c = false ∧ c ≠ ']' := by
  have number : ∀ {text : List Char}, (∃ c rest, text = c :: rest ∧ opensNumber c = true) →
      ∃ c rest, text = c :: rest ∧ isBlank c = false ∧ c ≠ ']' := by
    rintro text ⟨c, rest, opened, starts⟩
    exact ⟨c, rest, opened, isBlank_of_opensNumber starts, ne_of_opensNumber starts _ (by decide)⟩
  cases v with
  | null => exact ⟨'n', "ull".toList, by decide, by decide, by decide⟩
  | bool value =>
    cases value
    · exact ⟨'f', "alse".toList, by decide, by decide, by decide⟩
    · exact ⟨'t', "rue".toList, by decide, by decide, by decide⟩
  | nat n => exact number (exists_digits n)
  | real value => exact number (exists_real value)
  | string content =>
    obtain ⟨quoted, opened⟩ := exists_quote content
    exact ⟨'"', quoted, opened, by decide, by decide⟩
  | array items => cases items <;> exact ⟨'[', _, rfl, by decide, by decide⟩
  | object members => rcases members with _ | ⟨⟨key, first⟩, others⟩ <;>
      exact ⟨'\x7b', _, rfl, by decide, by decide⟩

end Reader

namespace Value

mutual

/-- Whether words hold the digits of all numbers with a sign, decimals or a power of ten. -/
def fits : Value → Bool
  | real value => decide (value.digits < UInt64.size)
  | array items => allFit items
  | object members => allFitMembers members
  | _ => true

/-- Whether words hold the digits of the numbers in some items. -/
def allFit : List Value → Bool
  | [] => true
  | item :: items => fits item && allFit items

/-- Whether words hold the digits of the numbers in some members. -/
def allFitMembers : List (Option String × Value) → Bool
  | [] => true
  | (_, value) :: members => fits value && allFitMembers members

end

end Value

namespace Reader

open Value

/-- The items of an array that has any, up to the closing bracket. -/
def itemsText : List Value → List Char
  | [] => []
  | item :: others => item.print ++ printItems others

/-- The members of an object that has any, up to the closing brace. -/
def membersText : List (Option String × Value) → List Char
  | [] => []
  | (key, first) :: others => quote key ++ ':' :: (first.print ++ printMembers others)

/-- Something is left of a bound for a text that is not empty. -/
theorem exists_fuel {c : Char} {text rest : List Char} (opened : text = c :: rest) {fuel : Nat}
    (enough : text.length ≤ fuel) : ∃ left, fuel = left + 1 ∧ rest.length ≤ left := by
  rw [opened, List.length_cons] at enough
  exact ⟨fuel - 1, by omega, by omega⟩

mutual

/-- A value is read from its text. -/
theorem value_print : ∀ (v : Value), v.fits = true → ∀ (fuel : Nat) (rest : List Char),
    v.print.length ≤ fuel → Stops inNumber rest → value fuel (v.print ++ rest) = some (v, rest)
  | .null, _, fuel, rest, enough, _ => by
    obtain ⟨left, rfl, _⟩ := exists_fuel (by rw [print]; rfl) enough
    have layout : print .null ++ rest = 'n' :: ("ull".toList ++ rest) := rfl
    rw [layout, value, skip_cons (by decide)]
    simp only [keyword?_append, Option.map_some]
  | .bool true, _, fuel, rest, enough, _ => by
    obtain ⟨left, rfl, _⟩ := exists_fuel (by rw [print]; rfl) enough
    have layout : print (.bool true) ++ rest = 't' :: ("rue".toList ++ rest) := rfl
    rw [layout, value, skip_cons (by decide)]
    simp only [keyword?_append, Option.map_some]
  | .bool false, _, fuel, rest, enough, _ => by
    obtain ⟨left, rfl, _⟩ := exists_fuel (by rw [print]; rfl) enough
    have layout : print (.bool false) ++ rest = 'f' :: ("alse".toList ++ rest) := rfl
    rw [layout, value, skip_cons (by decide)]
    simp only [keyword?_append, Option.map_some]
  | .nat n, _, fuel, rest, enough, ends => by
    obtain ⟨c, others, opened, starts⟩ := exists_digits n
    have layout : print (.nat n) = Decimal.digits n := rfl
    rw [layout] at enough ⊢
    obtain ⟨left, rfl, _⟩ := exists_fuel opened enough
    rw [value_number (by rw [opened]; rfl) starts, number_digits n ends]
  | .real n, fits, fuel, rest, enough, ends => by
    obtain ⟨c, others, opened, starts⟩ := exists_real n
    have layout : print (.real n) = n.print := rfl
    rw [layout] at enough ⊢
    obtain ⟨left, rfl, _⟩ := exists_fuel opened enough
    rw [value_number (by rw [opened]; rfl) starts, number_print n (of_decide_eq_true fits) ends]
  | .string content, _, fuel, rest, enough, _ => by
    obtain ⟨quoted, opened⟩ := exists_quote content
    have layout : print (.string content) = '"' :: quoted := opened
    obtain ⟨left, rfl, _⟩ := exists_fuel layout enough
    rw [layout, List.cons_append, value, skip_cons (by decide)]
    simp only [string_quote content opened, Option.map_some]
  | .array found, fits, fuel, rest, enough, _ => by
    have inner := items_print found fits
    rcases found with _ | ⟨item, others⟩
    · obtain ⟨left, rfl, _⟩ := exists_fuel (by rw [print]) enough
      have layout : print (.array []) ++ rest = '[' :: ']' :: rest := rfl
      rw [layout, value, skip_cons (by decide)]
      simp only [skip_cons (show isBlank ']' = false by decide)]
    · have layout : print (.array (item :: others)) = '[' :: itemsText (item :: others) := by
        rw [print, itemsText]
      obtain ⟨left, rfl, shorter⟩ := exists_fuel layout enough
      have read := inner (by simp) left rest shorter
      obtain ⟨c, text, opened, token, differs⟩ := exists_print item
      have starts : itemsText (item :: others) ++ rest =
          c :: (text ++ printItems others ++ rest) := by
        rw [itemsText, opened, List.cons_append, List.cons_append]
      rw [starts] at read
      rw [layout, List.cons_append, starts]
      exact value_array token differs read
  | .object found, fits, fuel, rest, enough, _ => by
    have inner := members_print found fits
    rcases found with _ | ⟨⟨key, first⟩, others⟩
    · obtain ⟨left, rfl, _⟩ := exists_fuel (by rw [print]) enough
      have layout : print (.object []) ++ rest = '\x7b' :: '\x7d' :: rest := rfl
      rw [layout, value, skip_cons (by decide)]
      simp only [skip_cons (show isBlank '\x7d' = false by decide)]
    · have layout : print (.object ((key, first) :: others)) =
          '\x7b' :: membersText ((key, first) :: others) := by
        rw [print, membersText]
      obtain ⟨left, rfl, shorter⟩ := exists_fuel layout enough
      have read := inner (by simp) left rest shorter
      obtain ⟨quoted, opened⟩ := exists_quote key
      have starts : membersText ((key, first) :: others) ++ rest =
          '"' :: (quoted ++ ':' :: (first.print ++ printMembers others) ++ rest) := by
        rw [membersText, opened, List.cons_append, List.cons_append]
      rw [starts] at read
      rw [layout, List.cons_append, starts]
      exact value_object read

/-- Items are read from their text. -/
theorem items_print : ∀ (found : List Value), allFit found = true → found ≠ [] →
    ∀ (fuel : Nat) (rest : List Char), (itemsText found).length ≤ fuel →
      items fuel (itemsText found ++ rest) = some (found, rest)
  | [], _, some_item, _, _, _ => absurd rfl some_item
  | item :: others, fit, _, fuel, rest, enough => by
    rw [allFit, Bool.and_eq_true] at fit
    rw [itemsText, List.length_append] at enough
    have one := value_print item fit.1
    have more := items_print others fit.2
    obtain ⟨c, text, opened, -, -⟩ := exists_print item
    have long : 0 < item.print.length := by rw [opened]; exact Nat.succ_pos _
    rcases others with _ | ⟨second, others⟩
    · have last : printItems [] = [']'] := rfl
      obtain ⟨left, rfl⟩ : ∃ left, fuel = left + 1 := ⟨fuel - 1, by omega⟩
      rw [last] at enough
      have read := one left (']' :: rest)
        (by rw [List.length_singleton] at enough; omega) (stops_cons (by simp) _)
      rw [itemsText, last, List.append_assoc, List.singleton_append, items]
      simp only [read, Option.bind_eq_bind, Option.bind_some,
        skip_cons (show isBlank ']' = false by decide)]
    · have next : printItems (second :: others) = ',' :: itemsText (second :: others) := by
        rw [printItems, itemsText]
      obtain ⟨left, rfl⟩ : ∃ left, fuel = left + 1 := ⟨fuel - 1, by omega⟩
      rw [next, List.length_cons] at enough
      have read := one left (',' :: (itemsText (second :: others) ++ rest)) (by omega)
        (stops_cons (by simp) _)
      have later := more (by simp) left rest (by omega)
      rw [itemsText, next, List.append_assoc, List.cons_append, items]
      simp only [read, Option.bind_eq_bind, Option.bind_some,
        skip_cons (show isBlank ',' = false by decide), later]

/-- Members are read from their text. -/
theorem members_print : ∀ (found : List (Option String × Value)), allFitMembers found = true →
    found ≠ [] → ∀ (fuel : Nat) (rest : List Char), (membersText found).length ≤ fuel →
      members fuel (membersText found ++ rest) = some (found, rest)
  | [], _, some_member, _, _, _ => absurd rfl some_member
  | (key, first) :: others, fit, _, fuel, rest, enough => by
    rw [allFitMembers, Bool.and_eq_true] at fit
    obtain ⟨quoted, opened⟩ := exists_quote key
    rw [membersText, opened, List.length_append, List.length_cons, List.length_cons,
      List.length_append] at enough
    have one := value_print first fit.1
    have more := members_print others fit.2
    obtain ⟨left, rfl⟩ : ∃ left, fuel = left + 1 := ⟨fuel - 1, by omega⟩
    rcases others with _ | ⟨⟨next, second⟩, others⟩
    · have last : printMembers [] = ['\x7d'] := rfl
      rw [last] at enough
      have read := one left ('\x7d' :: rest) (by omega) (stops_cons (by simp) _)
      have layout : membersText [(key, first)] ++ rest =
          '"' :: (quoted ++ ':' :: (first.print ++ '\x7d' :: rest)) := by
        simp only [membersText, opened, last, List.cons_append, List.append_assoc,
          List.nil_append]
      rw [layout, members, skip_cons (by decide)]
      simp only [string_quote key opened, Option.bind_eq_bind, Option.bind_some,
        skip_cons (show isBlank ':' = false by decide), read,
        skip_cons (show isBlank '\x7d' = false by decide)]
    · have comma : printMembers ((next, second) :: others) =
          ',' :: membersText ((next, second) :: others) := by
        rw [printMembers, membersText]
      rw [comma, List.length_cons] at enough
      have read := one left (',' :: (membersText ((next, second) :: others) ++ rest)) (by omega)
        (stops_cons (by simp) _)
      have later := more (by simp) left rest (by omega)
      have layout : membersText ((key, first) :: (next, second) :: others) ++ rest =
          '"' :: (quoted ++ ':' :: (first.print ++
            ',' :: (membersText ((next, second) :: others) ++ rest))) := by
        rw [membersText, opened, comma]
        simp only [List.cons_append, List.append_assoc]
      rw [layout, members, skip_cons (by decide)]
      simp only [string_quote key opened, Option.bind_eq_bind, Option.bind_some,
        skip_cons (show isBlank ':' = false by decide), read,
        skip_cons (show isBlank ',' = false by decide), later]

end

end Reader

/-- The text of a value holds the value first, and nothing after it. -/
theorem readFirst_render (v : Value) (fits : v.fits = true) :
    readFirst v.render.toList = some (v, []) := by
  have read := Reader.value_print v fits (2 * v.print.length + 2) [] (by omega) .nil
  rw [List.append_nil] at read
  rw [readFirst, Value.render, String.toList_ofList, read]

/-- The text of a value is read as the value. -/
theorem parse_render (v : Value) (fits : v.fits = true) : parse v.render = some v := by
  rw [parse, readFirst_render v fits]
  rfl

end Outbound.Json
