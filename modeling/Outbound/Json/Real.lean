import Outbound.Decimal

/-!
# Numbers with a sign, a fraction or an exponent

A number is computed as fast readers do it: the leading digits fill a word of 64 bits, the digits
that find no room are dropped, and what is left is scaled by one power of ten. The significand
and the power are rounded to 53 bits each before they meet, so a number close to the greatest one
may land on either side of it.
-/
namespace Outbound.Json

/-- A number with a sign, a fraction or an exponent. -/
structure Real where
  /-- Whether a minus sign is written. -/
  negative : Bool
  /-- The digits that are kept, without the point. -/
  digits : Nat
  /-- The power of ten that scales them. -/
  scale : Int
  deriving DecidableEq

namespace Real

/-- Append digits to a significand for as long as a word holds it. The second part is the digits
that find no room: the first one that would not fit and all after it. -/
def append (significand : Nat) : List Char → Nat × List Char
  | [] => (significand, [])
  | c :: rest =>
    let next := significand * 10 + Decimal.digitValue c
    if next < UInt64.size then append next rest else (significand, c :: rest)

/-- The number that is written with some whole digits, some decimals and a power of ten. A whole
digit that finds no room still counts in the scale; a decimal does not. Decimals are tried even
if whole digits were dropped, since a small digit may fit where a greater one did not. -/
def ofNumeral (negative : Bool) (whole decimals : List Char) (power : Int) : Real :=
  let (integer, dropped) := append 0 whole
  let (digits, lost) := append integer decimals
  ⟨negative, digits, power + dropped.length - (decimals.length - lost.length : Nat)⟩

/-- The text of a number. -/
def print (value : Real) : List Char :=
  (if value.negative then ['-'] else []) ++ Decimal.digits value.digits ++ 'e' ::
    (if value.scale < 0 then ['-'] else []) ++ Decimal.digits value.scale.natAbs

/-- The nearest number that has 53 significant binary digits; of two, the even one. -/
def round (n : Nat) : Nat :=
  let unit := Nat.pow 2 (Nat.log2 n - 52)
  let quotient := n / unit
  let twice := n % unit * 2
  if unit < twice ∨ unit = twice ∧ quotient % 2 = 1 then (quotient + 1) * unit
  else quotient * unit

/-- The least number that rounds to none with 53 significant binary digits below the 1024th
power of two. -/
def overflow : Nat := Nat.pow 2 1024 - Nat.pow 2 970

/-- The greatest power of ten that has a rounded form in range. -/
def maxScale : Nat := 308

/-- Whether a number is out of range: its scale is, or the product of the rounded significand
and the rounded power of ten rounds to infinity. A quotient never does. -/
def overflows (value : Real) : Bool :=
  if value.digits = 0 ∨ value.scale < 0 then false
  else if maxScale < value.scale then true
  else overflow ≤ round value.digits * round (Nat.pow 10 value.scale.toNat)

/-- Digits that are appended leave the significand in a word. -/
theorem append_lt (significand : Nat) (digits : List Char) (h : significand < UInt64.size) :
    (append significand digits).1 < UInt64.size := by
  induction digits generalizing significand with
  | nil => exact h
  | cons c rest ih =>
    simp only [append]
    split
    · exact ih _ ‹_›
    · exact h

/-- A significand that is read fits a word. -/
theorem digits_ofNumeral_lt (negative : Bool) (whole decimals : List Char) (power : Int) :
    (ofNumeral negative whole decimals power).digits < UInt64.size :=
  append_lt _ _ (append_lt _ _ (by decide))

/-- A numeral that a word holds is kept whole. -/
theorem append_of_lt (significand : Nat) (digits : List Char)
    (h : digits.foldl (fun sum c => sum * 10 + Decimal.digitValue c) significand < UInt64.size) :
    append significand digits =
      (digits.foldl (fun sum c => sum * 10 + Decimal.digitValue c) significand, []) := by
  induction digits generalizing significand with
  | nil => rfl
  | cons c rest ih =>
    have grows : ∀ (others : List Char) (start : Nat),
        start ≤ others.foldl (fun sum c => sum * 10 + Decimal.digitValue c) start := by
      intro others
      induction others with
      | nil => exact fun start => Nat.le_refl start
      | cons d others step =>
        intro start
        exact Nat.le_trans (by omega) (step (start * 10 + Decimal.digitValue d))
    have fits := Nat.lt_of_le_of_lt (grows rest (significand * 10 + Decimal.digitValue c)) h
    simp only [append, if_pos fits, List.foldl_cons]
    exact ih _ h

end Real

end Outbound.Json
