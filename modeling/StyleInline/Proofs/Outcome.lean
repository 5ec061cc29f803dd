/-!
# Outcomes

A reading ends with a result or an error; what is made of a result afterwards does not
change which of the two it is.
-/

namespace StyleInline

variable {ε α β : Type} {f : α → β} {outcome : Except ε α}

/-- What is made of an outcome is a result when that outcome is one. -/
theorem map_eq_ok_iff {b : β} : outcome.map f = .ok b ↔ ∃ a, outcome = .ok a ∧ f a = b := by
  cases outcome <;> simp [Except.map]

/-- It is an error when that outcome is the same error. -/
theorem map_eq_error_iff {e : ε} : outcome.map f = .error e ↔ outcome = .error e := by
  cases outcome <;> simp [Except.map]

@[simp] theorem isOk_ok (a : α) : (.ok a : Except ε α).isOk = true := rfl

@[simp] theorem isOk_error (e : ε) : (.error e : Except ε α).isOk = false := rfl

theorem isOk_iff : outcome.isOk = true ↔ ∃ a, outcome = .ok a := by
  cases outcome <;> simp

end StyleInline
