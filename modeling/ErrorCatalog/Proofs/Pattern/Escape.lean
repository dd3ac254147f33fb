import ErrorCatalog.Pattern

/-!
# Reading escaped texts

An escaped text is read as the sequence of its characters, whatever characters
it holds: none of them opens a group or a class, repeats what stands before it,
or is anything else but itself (`Pattern.Reader.syntax?_escape`). Under the
flags that a pattern starts with, this sequence means the text
(`Pattern.Syntax.expression?_ofText`).

- `Pattern.Reader.pieces?_escapeChar`: one character, escaped or not, is one
  piece of a pattern.
-/

namespace ErrorCatalog

namespace Pattern

/-- The syntax of a text: its characters in order. -/
def Syntax.ofText (text : List Char) : Syntax := ofItems (text.map fun c => .char ⟨c, false⟩)

namespace Reader

/-- Blanks count unless they are ignored. -/
theorem skip_of_strict {ignoring : Bool} (strict : ignoring = false) (input : List Char) :
    skip ignoring input = input := by
  rw [strict]
  rfl

/-- A special character after a backslash stands for itself. -/
theorem escape?_of_isMeta {c : Char} (special : isMeta c = true) (rest : List Char) :
    escape? false (c :: rest) = some (.plain c, rest) := by
  have escapable : isEscapable c = true := by
    rw [isEscapable, special]
    rfl
  rw [escape?, if_pos escapable]

/-- A character that is not special stands for itself. -/
theorem piece?_of_not_isMeta (state : State) {c : Char} (plain : isMeta c = false)
    (rest : List Char) : piece? state c rest = some (state.push (.char ⟨c, false⟩), rest) := by
  have apart : ∀ special : Char, isMeta special = true → c ≠ special := by
    rintro special has rfl
    exact Bool.false_ne_true (plain.symm.trans has)
  simp only [piece?, apart '(' rfl, apart ')' rfl, apart '|' rfl, apart '[' rfl, apart '?' rfl,
    apart '*' rfl, apart '+' rfl, apart '\x7b' rfl, apart '\\' rfl, apart '.' rfl, apart '^' rfl,
    apart '$' rfl, ↓reduceIte]

/-- An escaped character is one piece of a pattern, which stands for this character. -/
theorem pieces?_escapeChar {state : State} (strict : state.ignoring = false) (fuel : Nat)
    (c : Char) (rest : List Char) :
    pieces? (fuel + 1) state (escapeChar c ++ rest) =
      pieces? fuel (state.push (.char ⟨c, false⟩)) rest := by
  cases special : isMeta c with
  | true =>
      have escaped : escapeChar c ++ rest = '\\' :: c :: rest := by
        rw [escapeChar, special, if_pos rfl]
        rfl
      have piece : piece? state '\\' (c :: rest) = some (state.push (.char ⟨c, false⟩), rest) := by
        have read := escape?_of_isMeta special rest
        simp only [piece?, strict, read]
        rfl
      rw [escaped, pieces?, skip_of_strict strict]
      simp only [piece]
  | false =>
      have plain : escapeChar c ++ rest = c :: rest := by
        rw [escapeChar, special, if_neg Bool.false_ne_true]
        rfl
      rw [plain, pieces?, skip_of_strict strict]
      simp only [piece?_of_not_isMeta state special rest]

/-- An escaped text is read as its characters. -/
theorem pieces?_flatMap_escapeChar (text : List Char) (state : State)
    (strict : state.ignoring = false) {fuel : Nat} (enough : text.length < fuel) :
    pieces? fuel state (text.flatMap escapeChar) =
      some { state with
        items := (text.map fun c => Syntax.char ⟨c, false⟩).reverse ++ state.items } := by
  induction text generalizing state fuel with
  | nil =>
      obtain ⟨fuel, rfl⟩ := Nat.exists_eq_succ_of_ne_zero (Nat.ne_zero_of_lt enough)
      rw [List.flatMap_nil, pieces?, skip_of_strict strict]
      rfl
  | cons c rest ih =>
      obtain ⟨fuel, rfl⟩ := Nat.exists_eq_succ_of_ne_zero (Nat.ne_zero_of_lt enough)
      have later : rest.length < fuel := Nat.lt_of_succ_lt_succ enough
      have pushed : (state.push (.char ⟨c, false⟩)).ignoring = false := strict
      rw [List.flatMap_cons, pieces?_escapeChar strict, ih _ pushed later]
      simp [State.push]

/-- Escaping does not shorten a text, so there is fuel for each of its characters. -/
theorem length_le_length_flatMap_escapeChar (text : List Char) :
    text.length ≤ (text.flatMap escapeChar).length := by
  induction text with
  | nil => exact Nat.le_refl 0
  | cons c rest ih =>
      have nonempty : 1 ≤ (escapeChar c).length := by
        unfold escapeChar
        split <;> simp
      rw [List.flatMap_cons, List.length_append, List.length_cons]
      omega

/-- Single characters are not nested. -/
theorem depthOfItems_chars (text : List Char) :
    Syntax.depthOfItems (text.map fun c => .char ⟨c, false⟩) = 0 := by
  induction text with
  | nil => rfl
  | cons c rest ih =>
      rw [List.map_cons, Syntax.depthOfItems, ih]
      rfl

/-- The syntax of a text is not nested too deeply. -/
theorem depth_ofText (text : List Char) : (Syntax.ofText text).depth ≤ maxDepth := by
  match text with
  | [] => exact Nat.zero_le _
  | [c] => exact Nat.zero_le _
  | first :: second :: rest =>
      have items := depthOfItems_chars (first :: second :: rest)
      have depth : (Syntax.ofText (first :: second :: rest)).depth = 1 := congrArg (· + 1) items
      rw [depth]
      decide

/-- The syntax of an escaped text is that of the text, and it has no groups. -/
theorem syntax?_escape (text : String) :
    syntax? (escape text).toList = some (Syntax.ofText text.toList, []) := by
  have enough : text.toList.length < (text.toList.flatMap escapeChar).length + 1 :=
    Nat.lt_succ_of_le (length_le_length_flatMap_escapeChar text.toList)
  have read := pieces?_flatMap_escapeChar text.toList {} rfl enough
  have shallow := Nat.not_lt.mpr (depth_ofText text.toList)
  have body : State.body
      { items := (text.toList.map fun c => Syntax.char ⟨c, false⟩).reverse ++ [] } =
        Syntax.ofText text.toList := by
    rw [State.body, List.append_nil, List.reverse_reverse]
    rfl
  rw [escape, String.toList_ofList, syntax?, read]
  simp only [Option.bind_eq_bind, Option.bind_some]
  rw [body, if_neg]
  · rfl
  · rintro (opened | deep)
    · exact opened rfl
    · exact shallow deep

end Reader

/-! ## The meaning of a text -/

/-- The expression of a text. -/
def Expression.ofText : List Char → Expression
  | [] => .empty
  | c :: rest => .literal (c :: rest)

/-- The literals of a text's characters are joined to the items of the text. -/
theorem Expression.foldr_consItem (text : List Char) :
    (text.map fun c => Expression.literal [c]).foldr consItem [] = (ofText text).items := by
  induction text with
  | nil => rfl
  | cons c rest ih =>
      rw [List.map_cons, List.foldr_cons, ih]
      cases rest <;> rfl

/-- The literals of a text's characters are joined to the expression of the text. -/
theorem Expression.cat_chars (text : List Char) :
    cat (text.map fun c => .literal [c]) = ofText text := by
  have single : (text.map fun c => Expression.literal [c]).flatMap items =
      text.map fun c => Expression.literal [c] := by
    rw [List.flatMap_map, List.map_eq_flatMap]
    rfl
  rw [cat, single, foldr_consItem]
  cases text <;> rfl

namespace Syntax

/-- Without flags a character has one case only. -/
theorem charExpression?_char (c : Char) :
    charExpression? {} ⟨c, false⟩ = some (.literal [c]) := by
  simp [charExpression?, CharClass.closed]

/-- Single characters are translated to their literals and leave the flags alone. -/
theorem expressions?_chars (text : List Char) :
    expressions? {} (text.map fun c => .char ⟨c, false⟩) =
      some (text.map fun c => .literal [c], {}) := by
  induction text with
  | nil => rfl
  | cons c rest ih =>
      rw [List.map_cons, expressions?, expression?, charExpression?_char]
      simp only [Option.map_some, Option.bind_eq_bind, Option.bind_some, ih]
      rfl

/-- A text means itself. -/
theorem expression?_ofText (text : List Char) :
    expression? {} (ofText text) = some (Expression.ofText text, {}) := by
  match text with
  | [] => rfl
  | [c] =>
      have read := charExpression?_char c
      simp only [ofText, List.map_cons, List.map_nil, ofItems, expression?, read, Option.map_some]
      rfl
  | first :: second :: rest =>
      have items := expressions?_chars (first :: second :: rest)
      have joined := Expression.cat_chars (first :: second :: rest)
      simp only [List.map_cons] at items joined
      simp only [ofText, List.map_cons, ofItems, expression?, items, Option.map_some, joined]

end Syntax

end Pattern

end ErrorCatalog
