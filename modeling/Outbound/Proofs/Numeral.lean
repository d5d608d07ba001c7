import Mathlib.Algebra.Group.Nat.Defs
import Mathlib.Data.Nat.Basic
import Outbound.Decimal
import Outbound.Hex

/-!
# Numerals in a text

A numeral ends where a text goes on with something that is no digit. What is written for a number
has as many digits as its size allows, and starts with a zero only if it is nothing else.
-/
namespace Outbound

/-- A text that does not start with a character that satisfies a test. -/
def Stops (test : Char → Bool) (text : List Char) : Prop :=
  ∀ c, text.head? = some c → test c = false

namespace Stops

variable {test : Char → Bool} {text front : List Char}

/-- An empty text starts with nothing. -/
theorem nil : Stops test [] := fun _ found => by cases found

/-- A text starts with its first character. -/
theorem cons {c : Char} (stop : test c = false) : Stops test (c :: text) := by
  intro other found
  cases found
  exact stop

/-- Nothing is taken from a text that does not start with what satisfies a test. -/
theorem takeWhile_eq_nil (stops : Stops test text) : text.takeWhile test = [] := by
  cases text with
  | nil => rfl
  | cons c text =>
    have stop := stops c rfl
    rw [List.takeWhile_cons, if_neg (by rw [stop]; decide)]

/-- What satisfies a test before a text that does not is taken from it. -/
theorem takeWhile_append (stops : Stops test text) (all : ∀ c ∈ front, test c = true) :
    (front ++ text).takeWhile test = front := by
  rw [List.takeWhile_append_of_pos all, stops.takeWhile_eq_nil, List.append_nil]

/-- What satisfies a test before a text that does not is dropped from it. -/
theorem dropWhile_append (stops : Stops test text) (all : ∀ c ∈ front, test c = true) :
    (front ++ text).dropWhile test = text := by
  rw [List.dropWhile_append_of_pos all]
  cases text with
  | nil => rfl
  | cons c text =>
    have stop := stops c rfl
    rw [List.dropWhile_cons, if_neg (by rw [stop]; decide)]

end Stops

/-- A number below a power of a base has no more digits than the power has zeros, if a number below
the base is written as one digit and any other as its quotient and one digit more. -/
theorem length_le_of_lt_pow {base : Nat} {write : Nat → List Char}
    (single : ∀ n < base, (write n).length = 1)
    (further : ∀ n, base ≤ n → (write n).length = (write (n / base)).length + 1)
    {n size : Nat} (positive : 0 < size) (bound : n < base ^ size) :
    (write n).length ≤ size := by
  induction size, positive using Nat.le_induction generalizing n with
  | base => exact Nat.le_of_eq (single n (by rwa [Nat.pow_one] at bound))
  | succ size positive ih =>
    obtain small | large := Nat.lt_or_ge n base
    · rw [single n small]
      exact Nat.le_add_left 1 size
    · have quotient : n / base < base ^ size :=
        Nat.div_lt_of_lt_mul (by rwa [Nat.mul_comm, ← Nat.pow_succ])
      rw [further n large]
      exact Nat.succ_le_succ (ih quotient)

namespace Decimal

/-- A number below a power of ten has no more digits than the power has zeros. -/
theorem length_digits_le {n size : Nat} (positive : 0 < size) (bound : n < 10 ^ size) :
    (digits n).length ≤ size := by
  refine length_le_of_lt_pow (fun n small => ?_) (fun n large => ?_) positive bound
  · rw [digits, if_pos small, List.length_singleton]
  · rw [digits, if_neg (Nat.not_lt.mpr large), List.length_append, List.length_singleton]

/-- A numeral that starts with a zero is that of zero. -/
theorem eq_zero_of_head_digits {n : Nat} (zero : (digits n).head? = some '0') : n = 0 := by
  induction n using Nat.strongRecOn with
  | _ n ih =>
    rw [digits] at zero
    split at zero
    case isTrue small =>
      have value := congrArg (Option.map digitValue) zero
      simp only [List.head?_cons, Option.map_some, digitValue_digit] at value
      have value : n % 10 = 0 := Option.some.inj value
      omega
    case isFalse large =>
      obtain ⟨first, others, front⟩ := List.exists_cons_of_ne_nil (digits_ne_nil (n / 10))
      have rest := ih (n / 10) (by omega) (by rw [front] at zero ⊢; exact zero)
      omega

/-- The numeral of zero. -/
theorem digits_zero : digits 0 = ['0'] := by
  rw [digits]
  rfl

end Decimal

namespace Hex

/-- A number that is written consists of digits. -/
theorem exists_of_mem_numeral {n : Nat} {c : Char} (mem : c ∈ numeral n) :
    ∃ value < 16, c = digit value := by
  induction n using Nat.strongRecOn with
  | _ n ih =>
    rw [numeral] at mem
    split at mem
    · exact ⟨n, ‹_›, List.mem_singleton.mp mem⟩
    · obtain front | last := List.mem_append.mp mem
      · exact ih (n / 16) (by omega) front
      · exact ⟨n % 16, Nat.mod_lt _ (by decide), List.mem_singleton.mp last⟩

/-- A number that is written has at least one digit. -/
theorem numeral_ne_nil (n : Nat) : numeral n ≠ [] := by
  rw [numeral]
  split <;> simp

/-- A number below a power of sixteen has no more digits than the power has zeros. -/
theorem length_numeral_le {n size : Nat} (positive : 0 < size) (bound : n < 16 ^ size) :
    (numeral n).length ≤ size := by
  refine length_le_of_lt_pow (fun n small => ?_) (fun n large => ?_) positive bound
  · rw [numeral, if_pos small, List.length_singleton]
  · rw [numeral, if_neg (Nat.not_lt.mpr large), List.length_append, List.length_singleton]

/-- The digits of a number that is written stand for it. -/
theorem value_numeral (n : Nat) :
    ((numeral n).filterMap digitValue?).foldl (fun sum digit => sum * 16 + digit) 0 = n := by
  induction n using Nat.strongRecOn with
  | _ n ih =>
    rw [numeral]
    split
    case isTrue small =>
      simp only [List.filterMap_cons, digitValue?_digit small, List.filterMap_nil,
        List.foldl_cons, List.foldl_nil]
      omega
    case isFalse large =>
      have last := digitValue?_digit (Nat.mod_lt n (show 0 < 16 by decide))
      rw [List.filterMap_append, List.foldl_append, ih (n / 16) (by omega)]
      simp only [List.filterMap_cons, last, List.filterMap_nil, List.foldl_cons, List.foldl_nil]
      omega

end Hex

end Outbound
