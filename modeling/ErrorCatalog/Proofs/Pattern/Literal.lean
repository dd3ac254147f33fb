import Mathlib.Data.List.Infix
import ErrorCatalog.Proofs.Pattern.Escape

/-!
# Patterns of texts

The pattern that an escaped text compiles to (`Pattern.compile?_escape`). It
only fails to compile if the text is so long that its automaton gets too large
(`Pattern.Expression.fits_ofText`); it has no groups, and the places where it
matches are those where the text occurs (`Pattern.Node.search?_ofText`).
-/

namespace ErrorCatalog

namespace Pattern

/-! ## Size -/

namespace Drafting

/-- Laying out states in two steps fails where laying them out at once fails: a layout that is too
large does not get smaller. -/
theorem add_bind_add (count extra more further : Nat) :
    (add count extra >>= fun _ => add more further) = add (count + more) (extra + further) := by
  funext layout
  by_cases small :
      (layout.states + count) * Layout.stateSize + (layout.extra + extra) ≤ Layout.maxSize
  · simp only [bind, StateT.bind, add, Layout.checked, Layout.size, small, ↓reduceIte,
      Option.map_some, Option.bind_some, Nat.add_assoc]
    rfl
  · have large : ¬ (layout.states + (count + more)) * Layout.stateSize +
        (layout.extra + (extra + further)) ≤ Layout.maxSize := by
      simp only [Layout.stateSize] at small ⊢
      omega
    simp [bind, StateT.bind, add, Layout.checked, Layout.size, small, large]

/-- Adding states succeeds within the limit on their size. -/
theorem succeeds_add (count extra : Nat) :
    succeeds (add count extra) = true ↔ count * Layout.stateSize + extra ≤ Layout.maxSize := by
  simp [succeeds, add, Layout.checked, Layout.size]

end Drafting

/-- The number of states for a text: one for each byte, and one for the empty text. -/
def textStates (text : List Char) : Nat := max 1 (String.ofList text).utf8ByteSize

/-- The memory that the automaton of a text takes: besides the states for the text there are three
that look for it, two for the group of the whole match, and one at the end. -/
def textSize (text : List Char) : Nat :=
  (textStates text + 6) * Layout.stateSize + (Layout.choiceSize * 2 + Layout.rangeSize)

namespace Expression

theorem draft_literal (direction : Direction) (text : List Char) :
    (literal text).draft direction = Drafting.add (String.ofList text).utf8ByteSize 0 := rfl

theorem draft_group_forward (index : Nat) (body : Expression) :
    (group index body).draft .forward =
      (Drafting.add 1 0 >>= fun _ => body.draft .forward >>= fun _ => Drafting.add 1 0) := rfl

theorem draft_group_backward (index : Nat) (body : Expression) :
    (group index body).draft .backward = body.draft .backward := rfl

/-- A text takes the states that `textStates` counts, whatever the direction. -/
theorem draft_ofText (direction : Direction) (text : List Char) :
    (ofText text).draft direction = Drafting.add (textStates text) 0 := by
  cases text with
  | nil => rfl
  | cons c rest =>
      have filled : 1 ≤ (String.ofList (c :: rest)).utf8ByteSize := by
        apply Nat.one_le_iff_ne_zero.mpr
        intro zero
        have empty := congrArg String.toList (String.utf8ByteSize_eq_zero_iff.mp zero)
        rw [String.toList_ofList] at empty
        exact List.cons_ne_nil c rest empty
      rw [ofText, draft_literal, textStates, Nat.max_eq_right filled]

/-- The expression of a text fits if its states do. -/
theorem fits_ofText (text : List Char) :
    (ofText text).fits = true ↔ textSize text ≤ Layout.maxSize := by
  have unbound : (ofText text).isStartBound = false ∧ (ofText text).isEndBound = false ∧
      (ofText text).isLongList = false := by
    cases text <;> exact ⟨rfl, rfl, rfl⟩
  obtain ⟨start, finish, short⟩ := unbound
  have forward : (ofText text).automaton .forward = Drafting.add (textStates text + 6)
      (Layout.choiceSize * 2 + Layout.rangeSize) := by
    simp only [automaton, start, draft_group_forward, draft_ofText, Drafting.choice,
      Drafting.add_bind_add, Bool.false_eq_true, ↓reduceIte]
    congr 1
    omega
  have backward : (ofText text).automaton .backward = Drafting.add (textStates text + 4)
      (Layout.choiceSize * 2 + Layout.rangeSize) := by
    simp only [automaton, finish, draft_group_backward, draft_ofText, Drafting.choice,
      Drafting.add_bind_add, Bool.false_eq_true, ↓reduceIte]
    congr 1
    omega
  -- Read from the back, no states note the group of the whole match, so the other automaton is
  -- the larger one.
  rw [fits, short, Bool.false_or, Bool.and_eq_true, forward, backward, Drafting.succeeds_add,
    Drafting.succeeds_add]
  simp only [textSize, Layout.stateSize]
  omega

end Expression

/-! ## Search -/

/-- A cursor moves over a text that is the start of what lies ahead. -/
theorem Cursor.over?_isSome_iff (text : List Char) (cursor : Cursor) :
    (cursor.over? text).isSome = true ↔ text <+: cursor.rest := by
  induction text generalizing cursor with
  | nil => simp [over?]
  | cons c more ih =>
      rw [over?]
      cases rest : cursor.rest with
      | nil => simp
      | cons next rest =>
          by_cases same : next = c
          · simp [same, ih, List.cons_prefix_cons]
          · simp [same, List.cons_prefix_cons, Ne.symm same]

/-- The node of a text. -/
def Node.ofText (text : List Char) : Node := ((Expression.ofText text).toNode 0).1

namespace Node

/-- The expression of a text matches at a cursor if the text lies ahead. -/
theorem run_ofText (text : List Char) (places : Nat) (cursor : Cursor) (entered : Entered) :
    (ofText text).run places accept cursor [] entered =
      (if text <+: cursor.rest then some [] else none, entered) := by
  cases text with
  | nil => rw [if_pos List.nil_prefix, ofText, Expression.ofText, Expression.toNode, run, accept]
  | cons c rest =>
      have stepped := Cursor.over?_isSome_iff (c :: rest) cursor
      change continueAt accept [] entered (cursor.over? (c :: rest)) = _
      cases reached : cursor.over? (c :: rest) with
      | none =>
          have apart : ¬ c :: rest <+: cursor.rest := by simp [← stepped, reached]
          rw [if_neg apart]
          rfl
      | some after =>
          have next : c :: rest <+: cursor.rest := by simp [← stepped, reached]
          rw [if_pos next]
          rfl

/-- The text is found at the first place where it comes next, and so if it occurs anywhere. -/
theorem searchFrom_ofText (text : List Char) (places : Nat) (before : Option Char) (index : Nat)
    (rest : List Char) (entered : Entered) :
    (ofText text).searchFrom places before index rest entered =
      if text <:+: rest then some [] else none := by
  induction rest generalizing before index with
  | nil =>
      rw [searchFrom, run_ofText]
      simp only [List.prefix_nil, List.infix_nil]
  | cons c rest ih =>
      rw [searchFrom, run_ofText]
      by_cases here : text <+: c :: rest
      · have occurs : text <:+: c :: rest := here.isInfix
        simp only [here, occurs, ↓reduceIte]
      · have later : text <:+: c :: rest ↔ text <:+: rest := by
          rw [List.infix_cons_iff]
          exact or_iff_right here
        simp only [here, later, ↓reduceIte, ih]

/-- The expression of a text is found in the messages that have the text in them. -/
theorem search?_ofText (text message : List Char) :
    (ofText text).search? message = if text <:+: message then some [] else none :=
  searchFrom_ofText text _ none 0 message {}

end Node

/-! ## Compilation -/

/-- The pattern of a text, which has no groups. -/
def ofText (text : String) : Pattern where
  text := escape text
  groupNames := []
  node := Node.ofText text.toList
  distinct := List.nodup_nil

/-- An escaped text compiles to the pattern of the text unless it is too long. -/
theorem compile?_escape (text : String) :
    compile? (escape text) =
      if textSize text.toList ≤ Layout.maxSize then some (ofText text) else none := by
  have fits := Expression.fits_ofText text.toList
  rw [compile?, Reader.syntax?_escape]
  simp only [Option.bind_eq_bind, Option.bind_some, Syntax.expression?_ofText]
  by_cases small : textSize text.toList ≤ Layout.maxSize
  · have distinct : (([] : List (Option String)).filterMap id).Nodup := List.nodup_nil
    rw [if_pos small, if_neg (not_not_intro (fits.mpr small)), dif_pos distinct]
    rfl
  · rw [if_neg small, if_pos (mt fits.mp small)]

/-- The pattern of a text matches where the text occurs, and captures nothing. -/
theorem captures?_ofText (text message : String) :
    (ofText text).captures? message =
      if text.toList <:+: message.toList then some [] else none := by
  rw [captures?, spans?, ofText, Node.search?_ofText]
  split <;> rfl

/-- The pattern of a text matches the messages that have the text in them. -/
theorem isMatch_ofText (text message : String) :
    (ofText text).isMatch message = true ↔ text.toList <:+: message.toList := by
  rw [isMatch, spans?, ofText, Node.search?_ofText]
  split
  · next occurs => exact iff_of_true rfl occurs
  · next absent => exact iff_of_false Bool.false_ne_true absent

end Pattern

end ErrorCatalog
