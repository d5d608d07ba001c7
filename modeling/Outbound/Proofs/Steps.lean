/-!
# Steps that may fail

What it says about the steps of a computation that all of it succeeds, or that it fails.
-/
namespace Outbound

variable {ε δ α β : Type}

/-- A sequence of two steps succeeds when the first does and the second does on its result. -/
theorem bind_eq_ok {first : Except ε α} {second : α → Except ε β} {result : β} :
    (first >>= second) = .ok result ↔ ∃ value, first = .ok value ∧ second value = .ok result := by
  cases first with
  | error fault => simp [bind, Except.bind]
  | ok value => simp [bind, Except.bind]

/-- A sequence of two steps fails when the first does, or when the second does on its result. -/
theorem bind_eq_error {first : Except ε α} {second : α → Except ε β} {error : ε} :
    (first >>= second) = .error error ↔
      first = .error error ∨ ∃ value, first = .ok value ∧ second value = .error error := by
  cases first with
  | error fault => simp [bind, Except.bind]
  | ok value => simp [bind, Except.bind]

/-- A step whose result is changed succeeds when it does. -/
theorem map_eq_ok {step : Except ε α} {change : α → β} {result : β} :
    step.map change = .ok result ↔ ∃ value, step = .ok value ∧ change value = result := by
  cases step with
  | error fault => simp [Except.map]
  | ok value => simp [Except.map]

/-- A step whose result is changed fails when it does. -/
theorem map_eq_error {step : Except ε α} {change : α → β} {error : ε} :
    step.map change = .error error ↔ step = .error error := by
  cases step with
  | error fault => simp [Except.map]
  | ok value => simp [Except.map]

/-- A step whose errors are reworded succeeds when it does. -/
theorem mapError_eq_ok {step : Except ε α} {reword : ε → δ} {result : α} :
    step.mapError reword = .ok result ↔ step = .ok result := by
  cases step with
  | error fault => constructor <;> (intro same; cases same)
  | ok value => constructor <;> (intro same; cases same; rfl)

/-- A step whose errors are reworded fails when it does. -/
theorem mapError_eq_error {step : Except ε α} {reword : ε → δ} {error : δ} :
    step.mapError reword = .error error ↔ ∃ fault, step = .error fault ∧ reword fault = error := by
  cases step with
  | error fault =>
    constructor
    · intro same
      exact ⟨fault, rfl, Except.error.inj same⟩
    · rintro ⟨_, same, rfl⟩
      cases same
      rfl
  | ok value =>
    constructor
    · intro same
      cases same
    · rintro ⟨_, same, _⟩
      cases same

end Outbound
