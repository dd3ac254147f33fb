import ErrorCatalog.Yaml.Scalar.Block
import ErrorCatalog.Yaml.Scalar.Plain
import ErrorCatalog.Yaml.Scalar.Quoted
import ErrorCatalog.Yaml.Token

/-!
# Reading tokens

A lexer goes through the characters of a document and lists its tokens. It
keeps track of the columns of the open blocks, and of the places where a short
key may have started: such a key is known for one only at the colon behind it,
and its token is then put in where it started.

`Token.scan?` lists the tokens of a document.
-/

namespace ErrorCatalog

namespace Yaml

/-- A place where a short key may have started. -/
structure ShortKey where
  place : Nat
  line : Nat
  column : Nat
  /-- The number of bytes before the place on its line. -/
  width : Nat
  /-- Whether nothing but a key can stand there. -/
  required : Bool

/-- The state of reading tokens. -/
structure Lexer where
  position : Position
  tokens : Array Token := #[]
  /-- The column of the innermost open block, or less than zero without one. -/
  indent : Int := -1
  /-- The columns of the blocks around it. -/
  outer : List Int := []
  /-- The possible short key inside the innermost bracket. -/
  short : Option ShortKey := none
  /-- The possible short keys outside of each open bracket. -/
  brackets : List (Option ShortKey) := []
  /-- Whether a short key may start here. -/
  keyAllowed : Bool := true
  /-- A bound for all steps within one token. -/
  fuel : Nat

namespace Lexer

/-- Whether a bracket is open. -/
def inFlow (lexer : Lexer) : Bool := ¬ lexer.brackets.isEmpty

/-- Add a token. -/
def emit (lexer : Lexer) (token : Token) : Lexer :=
  { lexer with tokens := lexer.tokens.push token }

/-- Add a token of some signs of the line. -/
def emitSigns (lexer : Lexer) (token : Token) (count : Nat) : Lexer :=
  { lexer.emit token with position := lexer.position.skip count }

/-- Put a token in after the first ones. -/
def insert (lexer : Lexer) (place : Nat) (token : Token) : Lexer :=
  { lexer with tokens := lexer.tokens.insertIdxIfInBounds place token }

/-- Open a block at a column, if it is further in than the innermost one. Its token is put in
after the first `place` ones. -/
def openBlock (lexer : Lexer) (column : Nat) (place : Nat) (token : Token) : Lexer :=
  if ¬ lexer.inFlow ∧ lexer.indent < column then
    { lexer.insert place token with indent := column, outer := lexer.indent :: lexer.outer }
  else lexer

/-- Close the blocks further in than a column, given the columns around the innermost one. -/
def closeFrom (lexer : Lexer) (column : Int) : List Int → Lexer
  | [] => lexer
  | indent :: outer =>
      if column < lexer.indent then
        ({ lexer.emit .blockEnd with indent := indent, outer := outer }).closeFrom column outer
      else lexer

/-- Close the blocks further in than a column. Within brackets indentation does not matter. -/
def closeBlocks (lexer : Lexer) (column : Int) : Lexer :=
  if lexer.inFlow then lexer else lexer.closeFrom column lexer.outer

/-- Note that a short key may start here. -/
def saveKey (lexer : Lexer) : Option Lexer :=
  if ¬ lexer.keyAllowed then some lexer
  else if lexer.short.any ShortKey.required then none
  else
    some { lexer with
      short := some {
        place := lexer.tokens.size
        line := lexer.position.line
        column := lexer.position.column
        width := lexer.position.width
        required := ¬ lexer.inFlow && lexer.indent = lexer.position.column } }

/-- Give up the possible short key inside the innermost bracket. -/
def dropKey (lexer : Lexer) : Option Lexer :=
  if lexer.short.any ShortKey.required then none else some { lexer with short := none }

/-- The greatest number of bytes of a short key. -/
def maxShort : Nat := 1024

/-- Whether a short key would be too long to end here. -/
def isStale (lexer : Lexer) (short : ShortKey) : Bool :=
  short.line < lexer.position.line || short.width + maxShort < lexer.position.width

/-- Keep a possible short key unless it is too long. -/
def refresh (lexer : Lexer) (short : Option ShortKey) : Option ShortKey :=
  short.filter fun short => ¬ lexer.isStale short

/-- Give up all possible short keys that are too long. -/
def dropStale (lexer : Lexer) : Option Lexer :=
  let lost (short : Option ShortKey) : Bool :=
    short.any fun short => short.required && lexer.isStale short
  if lost lexer.short ∨ lexer.brackets.any lost then none
  else
    some { lexer with
      short := lexer.refresh lexer.short
      brackets := lexer.brackets.map lexer.refresh }

/-- Go on to the next token, over blanks, comments and line ends, in at most `fuel` lines. Tabs
count as blanks where no short key may start. -/
def skipToToken : Nat → Lexer → Lexer
  | 0, lexer => lexer
  | fuel + 1, lexer =>
      let start := lexer.position
      let start :=
        if start.column = 0 ∧ start.rest.head? = some '\ufeff' then start.skip 1 else start
      let tabs := lexer.inFlow || ¬ lexer.keyAllowed
      let position := (start.skipWhile fun c => c = ' ' || (tabs && c = '\t')).skipComment
      if ¬ position.rest.isEmpty ∧ breakNext position.rest then
        skipToToken fuel { lexer with
          position := position.nextLine
          keyAllowed := lexer.keyAllowed || ¬ lexer.inFlow }
      else { lexer with position := position }

/-- Read a directive. -/
def directive? (lexer : Lexer) : Option Lexer := do
  let lexer ← (lexer.closeBlocks (-1)).dropKey
  let (directive, position) ← Directive.read? lexer.fuel lexer.position
  return { lexer.emit (.directive directive) with position := position, keyAllowed := false }

/-- Read a document mark. -/
def documentMark? (lexer : Lexer) (token : Token) : Option Lexer := do
  let lexer ← (lexer.closeBlocks (-1)).dropKey
  return { lexer.emitSigns token 3 with keyAllowed := false }

/-- Read an opening bracket. -/
def openBracket? (lexer : Lexer) (token : Token) : Option Lexer := do
  let lexer ← lexer.saveKey
  return { lexer.emitSigns token 1 with
    short := none
    brackets := lexer.short :: lexer.brackets
    keyAllowed := true }

/-- Read a closing bracket. -/
def closeBracket? (lexer : Lexer) (token : Token) : Option Lexer := do
  let lexer ← lexer.dropKey
  let lexer := match lexer.brackets with
    | [] => lexer
    | short :: brackets => { lexer with short := short, brackets := brackets }
  return { lexer.emitSigns token 1 with keyAllowed := false }

/-- Read a comma between brackets. -/
def flowEntry? (lexer : Lexer) : Option Lexer := do
  let lexer ← lexer.dropKey
  return { lexer.emitSigns .flowEntry 1 with keyAllowed := true }

/-- Read the dash of an item. -/
def blockEntry? (lexer : Lexer) : Option Lexer := do
  if ¬ lexer.inFlow ∧ ¬ lexer.keyAllowed then none
  let lexer ← (lexer.openBlock lexer.position.column lexer.tokens.size .blockSequenceStart).dropKey
  return { lexer.emitSigns .blockEntry 1 with keyAllowed := true }

/-- Read the question mark of a key. -/
def key? (lexer : Lexer) : Option Lexer := do
  if ¬ lexer.inFlow ∧ ¬ lexer.keyAllowed then none
  let lexer ← (lexer.openBlock lexer.position.column lexer.tokens.size .blockMappingStart).dropKey
  return { lexer.emitSigns .key 1 with keyAllowed := ¬ lexer.inFlow }

/-- Read the colon of a value. A possible short key before it is one. -/
def value? (lexer : Lexer) : Option Lexer :=
  match lexer.short with
  | some short =>
      let lexer := (lexer.insert short.place .key).openBlock short.column short.place
        .blockMappingStart
      some { lexer.emitSigns .value 1 with short := none, keyAllowed := false }
  | none =>
      if ¬ lexer.inFlow ∧ ¬ lexer.keyAllowed then none
      else
        let lexer := lexer.openBlock lexer.position.column lexer.tokens.size .blockMappingStart
        some { lexer.emitSigns .value 1 with keyAllowed := ¬ lexer.inFlow }

/-- Whether a character may follow an anchor directly. -/
def endsAnchor (rest : List Char) : Bool :=
  blankNext rest || rest.head?.any "?:,]\x7d%@\x60".toList.contains

/-- Read an anchor or an alias. -/
def anchor? (lexer : Lexer) (token : String → Token) : Option Lexer := do
  let lexer ← lexer.saveKey
  let name := (lexer.position.rest.drop 1).takeWhile isWordChar
  if name.isEmpty ∨ ¬ endsAnchor (lexer.position.rest.drop (name.length + 1)) then none
  return { lexer.emitSigns (token (String.ofList name)) (name.length + 1) with keyAllowed := false }

/-- Read a tag. -/
def tag? (lexer : Lexer) : Option Lexer := do
  let lexer ← lexer.saveKey
  let (tag, position) ← Tag.read? lexer.inFlow lexer.fuel lexer.position
  return { lexer.emit (.tag tag) with position := position, keyAllowed := false }

/-- Read a block scalar. -/
def blockScalar? (lexer : Lexer) (style : ScalarStyle) : Option Lexer := do
  let lexer ← lexer.dropKey
  let (text, position) ← Block.read? (style = .folded) lexer.indent lexer.fuel lexer.position
  return { lexer.emit (.scalar text style) with position := position, keyAllowed := true }

/-- Read a quoted scalar. -/
def quotedScalar? (lexer : Lexer) (quote : Char) (style : ScalarStyle) : Option Lexer := do
  let lexer ← lexer.saveKey
  let (text, position) ← Quoted.read? quote lexer.fuel lexer.position
  return { lexer.emit (.scalar text style) with position := position, keyAllowed := false }

/-- Read a plain scalar. A short key may start on a line after it. -/
def plainScalar? (lexer : Lexer) : Option Lexer := do
  let lexer ← lexer.saveKey
  let reading ← Plain.read? lexer.inFlow (lexer.indent + 1).toNat lexer.fuel lexer.position
  return { lexer.emit (.scalar reading.text .plain) with
    position := reading.position, keyAllowed := reading.broken }

/-- Whether a plain scalar may start with a character, given what follows it. -/
def startsPlain (flow : Bool) (c : Char) (rest : List Char) : Bool :=
  if c = '-' then ¬ rest.head?.any isBlank
  else if c = '?' ∨ c = ':' then ¬ flow && ¬ blankNext rest
  else ¬ (",[]\x7b\x7d#&*!|>'\"%@\x60".toList.contains c || blankNext [c])

/-- Read the token that starts with a character. -/
def token? (lexer : Lexer) (c : Char) (rest : List Char) : Option Lexer :=
  let flow := lexer.inFlow
  if c = '%' ∧ lexer.position.column = 0 then lexer.directive?
  else if lexer.position.marks '-' then lexer.documentMark? .documentStart
  else if lexer.position.marks '.' then lexer.documentMark? .documentEnd
  else
    match c with
    | '[' => lexer.openBracket? .flowSequenceStart
    | '\x7b' => lexer.openBracket? .flowMappingStart
    | ']' => lexer.closeBracket? .flowSequenceEnd
    | '\x7d' => lexer.closeBracket? .flowMappingEnd
    | ',' => lexer.flowEntry?
    | '*' => lexer.anchor? .alias
    | '&' => lexer.anchor? .anchor
    | '!' => lexer.tag?
    | '\'' => lexer.quotedScalar? '\'' .singleQuoted
    | '"' => lexer.quotedScalar? '"' .doubleQuoted
    | _ =>
        if c = '-' ∧ blankNext rest then lexer.blockEntry?
        else if c = '?' ∧ (flow ∨ blankNext rest) then lexer.key?
        else if c = ':' ∧ (flow ∨ blankNext rest) then lexer.value?
        else if c = '|' ∧ ¬ flow then lexer.blockScalar? .literal
        else if c = '>' ∧ ¬ flow then lexer.blockScalar? .folded
        else if startsPlain flow c rest then lexer.plainScalar?
        else none

/-- Read all tokens, at most `fuel` of them. -/
def run? : Nat → Lexer → Option Lexer
  | 0, _ => none
  | fuel + 1, lexer => do
      let lexer ← (lexer.skipToToken lexer.fuel).dropStale
      let lexer := lexer.closeBlocks lexer.position.column
      match lexer.position.rest with
      | [] => (lexer.closeBlocks (-1)).dropKey
      | c :: rest => run? fuel (← lexer.token? c rest)

end Lexer

/-- The tokens of a document. -/
def Token.scan? (characters : List Char) : Option (List Token) := do
  let fuel := characters.length + 1
  let lexer ← Lexer.run? fuel { position := { rest := characters }, fuel := fuel }
  return lexer.tokens.toList

end Yaml

end ErrorCatalog
