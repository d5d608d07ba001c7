/-!
# Decimal numerals

A numeral is a list of ASCII digits. `digits` writes the shortest one of a number and `value`
reads any; `value_digits` says that reading undoes writing.
-/
namespace Outbound.Decimal

/-- An ASCII decimal digit. -/
def IsDigit (c : Char) : Prop := '0' ≤ c ∧ c ≤ '9'

instance (c : Char) : Decidable (IsDigit c) := inferInstanceAs (Decidable (_ ∧ _))

/-- The number a digit stands for. -/
def digitValue (c : Char) : Nat := c.toNat - 48

/-- The digit that stands for a number below ten. -/
def digit (n : Nat) : Char := Char.ofNat (48 + n % 10)

/-- The number a numeral stands for; leading zeros change nothing. -/
def value (numeral : List Char) : Nat :=
  numeral.foldl (fun sum c => sum * 10 + digitValue c) 0

/-- The numeral of a number, without leading zeros. -/
def digits (n : Nat) : List Char :=
  if n < 10 then [digit n] else digits (n / 10) ++ [digit n]
termination_by n

/-- The numeral of a number as text. -/
def text (n : Nat) : String := String.ofList (digits n)

/-- A written digit is a digit. -/
theorem isDigit_digit (n : Nat) : IsDigit (digit n) := by
  have bound : n % 10 < 10 := Nat.mod_lt _ (by decide)
  unfold digit
  generalize n % 10 = d at bound
  match d, bound with
  | 0, _ | 1, _ | 2, _ | 3, _ | 4, _ | 5, _ | 6, _ | 7, _ | 8, _ | 9, _ => decide

/-- A written digit stands for the number's last digit. -/
theorem digitValue_digit (n : Nat) : digitValue (digit n) = n % 10 := by
  have bound : n % 10 < 10 := Nat.mod_lt _ (by decide)
  unfold digit
  generalize n % 10 = d at bound
  match d, bound with
  | 0, _ | 1, _ | 2, _ | 3, _ | 4, _ | 5, _ | 6, _ | 7, _ | 8, _ | 9, _ => decide

/-- One more digit at the end of a numeral. -/
theorem value_append_singleton (numeral : List Char) (c : Char) :
    value (numeral ++ [c]) = value numeral * 10 + digitValue c := by
  simp [value, List.foldl_append]

/-- Reading a written number gives the number. -/
theorem value_digits (n : Nat) : value (digits n) = n := by
  induction n using Nat.strongRecOn with
  | _ n ih =>
    unfold digits
    split
    · simp only [value, List.foldl_cons, List.foldl_nil, digitValue_digit]
      omega
    · rw [value_append_singleton, ih (n / 10) (by omega), digitValue_digit]
      omega

/-- A written number consists of digits. -/
theorem isDigit_of_mem_digits {n : Nat} {c : Char} (h : c ∈ digits n) : IsDigit c := by
  induction n using Nat.strongRecOn with
  | _ n ih =>
    unfold digits at h
    split at h
    · simp only [List.mem_singleton] at h
      exact h ▸ isDigit_digit n
    · rcases List.mem_append.mp h with h | h
      · exact ih (n / 10) (by omega) h
      · simp only [List.mem_singleton] at h
        exact h ▸ isDigit_digit n

/-- A written number has at least one digit. -/
theorem digits_ne_nil (n : Nat) : digits n ≠ [] := by
  unfold digits
  split <;> simp

end Outbound.Decimal
