/-!
# Results of computations in turn

What the result of a composite computation says about its parts: a value means
that each part gave one, an error that one of them failed.
-/

namespace ErrorCatalog

section

variable {ε α β : Type}

/-- A mapped result that succeeds comes from one that succeeds. -/
theorem exists_of_map_eq_ok {f : α → β} {result : Except ε α} {mapped : β}
    (same : result.map f = .ok mapped) : ∃ value, result = .ok value ∧ f value = mapped := by
  cases result with
  | error error => cases same
  | ok value => exact ⟨value, rfl, Except.ok.inj same⟩

/-- A mapped result fails as the result does. -/
theorem eq_error_of_map {f : α → β} {result : Except ε α} {error : ε}
    (failed : result.map f = .error error) : result = .error error := by
  cases result with
  | error own =>
      cases failed
      rfl
  | ok value => cases failed

/-- Two steps that succeed in turn succeed one by one. -/
theorem exists_of_bind_eq_ok {first : Except ε α} {next : α → Except ε β} {last : β}
    (succeeded : (first >>= next) = .ok last) :
    ∃ value, first = .ok value ∧ next value = .ok last := by
  cases first with
  | error error => cases succeeded
  | ok value => exact ⟨value, rfl, succeeded⟩

/-- Of two computations in turn, the second one fails only if the first one does not. -/
theorem eq_error_of_bind {first : Except ε α} {next : α → Except ε β} {error : ε}
    (failed : (first >>= next) = .error error) :
    first = .error error ∨ ∃ value, first = .ok value ∧ next value = .error error := by
  cases first with
  | error own =>
      cases failed
      exact Or.inl rfl
  | ok value => exact Or.inr ⟨value, rfl, failed⟩

end

end ErrorCatalog
