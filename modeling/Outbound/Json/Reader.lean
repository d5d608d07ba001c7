import Outbound.Json.Value

/-!
# Reading JSON

The reader accepts the standard grammar and nothing else: no leading zeros, no raw control
characters, blanks only between tokens, and nothing but blanks after the value.
-/
namespace Outbound.Json

/-- One character of a string, or the sixteen-bit unit of a numbered escape. -/
inductive Piece where
  | plain (c : Char)
  | unit (value : Nat)

namespace Reader

/-- Whether a character may stand between tokens. -/
def isBlank (c : Char) : Bool := c == ' ' || c == '\t' || c == '\n' || c == '\r'

/-- The text from the next token on. -/
def skip (text : List Char) : List Char := text.dropWhile isBlank

/-- The character of a short escape. -/
def shortEscape? (c : Char) : Option Char :=
  match c with
  | '"' => some '"'
  | '\\' => some '\\'
  | '/' => some '/'
  | 'b' => some '\x08'
  | 'f' => some '\x0c'
  | 'n' => some '\n'
  | 'r' => some '\r'
  | 't' => some '\t'
  | _ => none

/-- The unit of four hexadecimal digits. -/
def unit? (a b c d : Char) : Option Nat := do
  let a ← Hex.digitValue? a
  let b ← Hex.digitValue? b
  let c ← Hex.digitValue? c
  let d ← Hex.digitValue? d
  some (a * 4096 + b * 256 + c * 16 + d)

/-- The pieces of a string up to its closing quote, and the text after it. -/
def pieces : List Char → Option (List Piece × List Char)
  | [] => none
  | '"' :: rest => some ([], rest)
  | '\\' :: 'u' :: a :: b :: c :: d :: rest => do
    let unit ← unit? a b c d
    let (others, rest) ← pieces rest
    some (.unit unit :: others, rest)
  | '\\' :: c :: rest => do
    let c ← shortEscape? c
    let (others, rest) ← pieces rest
    some (.plain c :: others, rest)
  | c :: rest =>
    if c.toNat < 32 then none
    else do
      let (others, rest) ← pieces rest
      some (.plain c :: others, rest)

/-- Whether a unit opens a pair. -/
def isLeading (unit : Nat) : Bool := 0xD800 ≤ unit && unit < 0xDC00

/-- Whether a unit closes a pair. -/
def isTrailing (unit : Nat) : Bool := 0xDC00 ≤ unit && unit < 0xE000

/-- The characters that pieces spell, unless a unit of a pair stands alone. -/
def spell : List Piece → Option (List Char)
  | [] => some []
  | .plain c :: rest => (spell rest).map (c :: ·)
  | .unit first :: .unit second :: rest =>
    if isLeading first then
      if isTrailing second then
        (spell rest).map
          (Char.ofNat (0x10000 + (first - 0xD800) * 1024 + (second - 0xDC00)) :: ·)
      else none
    else if isTrailing first then none
    else (spell (.unit second :: rest)).map (Char.ofNat first :: ·)
  | .unit first :: rest =>
    if isLeading first || isTrailing first then none
    else (spell rest).map (Char.ofNat first :: ·)

/-- The content of a string whose opening quote is read, and the text after it. -/
def string (text : List Char) : Option (Option String × List Char) :=
  (pieces text).map fun (found, rest) => ((spell found).map String.ofList, rest)

/-- Whether a character is a decimal digit. -/
def isDigit (c : Char) : Bool := decide (Decimal.IsDigit c)

/-- The digits after a decimal point, if one follows. -/
def fraction (text : List Char) : Option (List Char × List Char) :=
  match text with
  | '.' :: rest =>
    let digits := rest.takeWhile isDigit
    if digits = [] then none else some (digits, rest.dropWhile isDigit)
  | _ => some ([], text)

/-- The power of ten after a number, if one is written. -/
def exponent (text : List Char) : Option (Option Int × List Char) :=
  match text with
  | mark :: rest =>
    if mark = 'e' ∨ mark = 'E' then
      let negative := rest.head? == some '-'
      let rest := if negative || rest.head? == some '+' then rest.tail else rest
      let digits := rest.takeWhile isDigit
      if digits = [] then none
      else
        let size : Int := Decimal.value digits
        some (some (if negative then -size else size), rest.dropWhile isDigit)
    else some (none, text)
  | [] => some (none, text)

/-- A number. -/
def number (text : List Char) : Option (Value × List Char) :=
  let negative := text.head? == some '-'
  let text := if negative then text.tail else text
  let whole := text.takeWhile isDigit
  if whole = [] ∨ (whole.head? = some '0' ∧ whole ≠ ['0']) then none
  else do
    let (decimals, rest) ← fraction (text.dropWhile isDigit)
    let (power, rest) ← exponent rest
    if !negative && decimals.isEmpty && power.isNone then
      some (.nat (Decimal.value whole), rest)
    else
      some (.real (.ofNumeral negative whole decimals (power.getD 0)), rest)

/-- The text after a keyword. -/
def keyword? (word text : List Char) : Option (List Char) :=
  if word.isPrefixOf text then some (text.drop word.length) else none

mutual

/-- A value, blanks before it included. The first argument bounds how often the rules are
applied. -/
def value : Nat → List Char → Option (Value × List Char)
  | 0, _ => none
  | fuel + 1, text =>
    match skip text with
    | [] => none
    | '"' :: rest => (string rest).map fun (content, rest) => (.string content, rest)
    | '[' :: rest =>
      match skip rest with
      | ']' :: rest => some (.array [], rest)
      | _ => (items fuel rest).map fun (found, rest) => (.array found, rest)
    | '\x7b' :: rest =>
      match skip rest with
      | '\x7d' :: rest => some (.object [], rest)
      | _ => (members fuel rest).map fun (found, rest) => (.object found, rest)
    | 'n' :: rest => (keyword? "ull".toList rest).map fun rest => (.null, rest)
    | 't' :: rest => (keyword? "rue".toList rest).map fun rest => (.bool true, rest)
    | 'f' :: rest => (keyword? "alse".toList rest).map fun rest => (.bool false, rest)
    | text => number text

/-- One or more items and the closing bracket. -/
def items : Nat → List Char → Option (List Value × List Char)
  | 0, _ => none
  | fuel + 1, text => do
    let (first, rest) ← value fuel text
    match skip rest with
    | ',' :: rest =>
      let (others, rest) ← items fuel rest
      some (first :: others, rest)
    | ']' :: rest => some ([first], rest)
    | _ => none

/-- One or more members and the closing brace. -/
def members : Nat → List Char → Option (List (Option String × Value) × List Char)
  | 0, _ => none
  | fuel + 1, text =>
    match skip text with
    | '"' :: rest => do
      let (key, rest) ← string rest
      match skip rest with
      | ':' :: rest =>
        let (first, rest) ← value fuel rest
        match skip rest with
        | ',' :: rest =>
          let (others, rest) ← members fuel rest
          some ((key, first) :: others, rest)
        | '\x7d' :: rest => some ([(key, first)], rest)
        | _ => none
      | _ => none
    | _ => none

end

end Reader

/-- The first value of a text and what follows it. Each bracket or comma is met by at most two
rules, so the bound is never reached. -/
def readFirst (text : List Char) : Option (Value × List Char) :=
  Reader.value (2 * text.length + 2) text

/-- The value that a text holds, and nothing after it. -/
def parse (text : String) : Option Value :=
  match readFirst text.toList with
  | some (value, rest) => if Reader.skip rest = [] then some value else none
  | none => none

end Outbound.Json
