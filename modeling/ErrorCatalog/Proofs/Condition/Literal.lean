import ErrorCatalog.Condition
import ErrorCatalog.Proofs.Pattern.Literal

/-!
# Literal conditions

A literal condition is written as a pattern, but it only asks whether a text
occurs in a message (`Condition.isMatch_of_literal`): no character of the text
has a meaning of its own, and there are no groups that could capture anything
(`Condition.extract?_of_literal`).
-/

namespace ErrorCatalog

namespace Condition

variable {text : String} {condition : Condition}

/-- A literal condition compiles to the pattern of its text if this is not too large. -/
theorem compile?_literal_eq (text : String) :
    compile? (.literal text) =
      if Pattern.textSize text.toList ≤ Pattern.Layout.maxSize then some ⟨Pattern.ofText text⟩
      else none := by
  rw [compile?, Pattern.compile?_escape]
  split <;> rfl

/-- A compiled literal condition is the pattern of its text. -/
theorem eq_of_compile?_literal (compiled : compile? (.literal text) = some condition) :
    condition = ⟨Pattern.ofText text⟩ := by
  rw [compile?_literal_eq] at compiled
  split at compiled
  · exact (Option.some.inj compiled).symm
  · cases compiled

/-- A literal condition matches the messages that have its text in them. -/
theorem isMatch_of_literal (compiled : compile? (.literal text) = some condition)
    (message : String) :
    condition.isMatch message = true ↔ text.toList <:+: message.toList := by
  rw [eq_of_compile?_literal compiled]
  exact Pattern.isMatch_ofText text message

/-- A literal condition has no parameters where it matches. -/
theorem extract?_of_literal (compiled : compile? (.literal text) = some condition)
    (message : String) :
    condition.extract? message =
      if text.toList <:+: message.toList then some (.positional []) else none := by
  rw [eq_of_compile?_literal compiled, extract?, Pattern.captures?_ofText]
  split <;> rfl

/-- **A literal condition matches where its text occurs.** Compiling it fails exactly if the
automaton of the text gets too large. Otherwise, whatever characters the text holds, a message
matches exactly if the text is a part of it, and then nothing is captured: the parameters are
positional and there are none. -/
theorem compile?_literal (text : String) :
    (compile? (.literal text) = none ↔
      Pattern.Layout.maxSize < Pattern.textSize text.toList) ∧
    ∀ condition, compile? (.literal text) = some condition → ∀ message : String,
      (condition.isMatch message = true ↔ text.toList <:+: message.toList) ∧
      (text.toList <:+: message.toList → condition.extract? message = some (.positional [])) ∧
      (¬ text.toList <:+: message.toList → condition.extract? message = none) := by
  constructor
  · rw [compile?_literal_eq, ← Nat.not_le]
    split
    · next small => exact iff_of_false (Option.some_ne_none _) (not_not_intro small)
    · next large => exact iff_of_true rfl large
  · intro condition compiled message
    have extracted := extract?_of_literal compiled message
    refine ⟨isMatch_of_literal compiled message, ?_, ?_⟩
    · intro occurs
      rw [extracted, if_pos occurs]
    · intro absent
      rw [extracted, if_neg absent]

/-- A text that would read as a pattern of its own, and as none at all, is found as it is. -/
theorem compile?_literal_unclosed :
    ∃ condition, compile? (.literal "a.*(b|") = some condition ∧
      condition.extract? "xa.*(b|y" = some (.positional []) ∧
      condition.extract? "a--b" = none := by
  obtain ⟨fails, characterised⟩ := compile?_literal "a.*(b|"
  have accepted : compile? (.literal "a.*(b|") ≠ none := mt fails.mp (by decide +kernel)
  obtain ⟨condition, compiled⟩ := Option.ne_none_iff_exists'.mp accepted
  have occurs : "a.*(b|".toList <:+: "xa.*(b|y".toList := by decide +kernel
  have absent : ¬ "a.*(b|".toList <:+: "a--b".toList := by decide +kernel
  obtain ⟨-, found, -⟩ := characterised condition compiled "xa.*(b|y"
  obtain ⟨-, -, missed⟩ := characterised condition compiled "a--b"
  exact ⟨condition, compiled, found occurs, missed absent⟩

end Condition

end ErrorCatalog
