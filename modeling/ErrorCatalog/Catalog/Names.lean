import ErrorCatalog.Catalog

/-!
# Names for unnamed cases

A supply of names of 32 hexadecimal digits in the form of random identifiers.
Names of that length last for `16 ^ 15` cases; the supply goes on with longer
ones, so that no name comes twice.
-/

namespace ErrorCatalog

namespace NameSource

/-- The hexadecimal digits of a number, at least `width` of them; what exceeds the width is
counted in front. -/
def digits : Nat → Nat → List Char
  | 0, value => List.replicate value 'f'
  | width + 1, value => digits width (value / 16) ++ [Nat.digitChar (value % 16)]

/-- The digits in front of the counter. -/
def head : List Char := "00000000000040008".toList

theorem digitChar_injective : ∀ left < 16, ∀ right < 16,
    Nat.digitChar left = Nat.digitChar right → left = right := by decide

/-- Different numbers have different digits. -/
theorem digits_injective (width : Nat) :
    ∀ left right, digits width left = digits width right → left = right := by
  induction width with
  | zero =>
      intro left right same
      simpa [digits] using congrArg List.length same
  | succ width ih =>
      intro left right same
      obtain ⟨high, low⟩ := List.append_inj' same rfl
      have quotients : left / 16 = right / 16 := ih _ _ high
      have remainders : left % 16 = right % 16 :=
        digitChar_injective _ (Nat.mod_lt _ (by decide)) _ (Nat.mod_lt _ (by decide))
          (List.head_eq_of_cons_eq low)
      rw [← Nat.div_add_mod left 16, ← Nat.div_add_mod right 16, quotients, remainders]

/-- The characters of the name with a given index. -/
def nameChars (index : Nat) : List Char := head ++ digits 15 index

theorem nameChars_ne_nil (index : Nat) : nameChars index ≠ [] :=
  List.append_ne_nil_of_left_ne_nil (by decide) _

theorem nameChars_injective (left right : Nat) (same : nameChars left = nameChars right) :
    left = right :=
  digits_injective 15 left right (List.append_cancel_left same)

/-- The supply of hexadecimal names. -/
def hexadecimal : NameSource where
  name index := String.ofList (nameChars index)
  nonempty index same := nameChars_ne_nil index (String.ofList_injective (same.trans rfl))
  injective left right same := nameChars_injective left right (String.ofList_injective same)

end NameSource

end ErrorCatalog
