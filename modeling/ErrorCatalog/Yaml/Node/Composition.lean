import ErrorCatalog.Register
import ErrorCatalog.Yaml.Node
import ErrorCatalog.Yaml.Token.Lexer

/-!
# Composing documents

The tokens of a document are composed into its tree. A value or an item that is
left out is an absent scalar. An anchor gets the number of different anchors
before it, and an alias the number of the last anchor of its name.

`Document.ofText?` composes the single document of a text.
-/

namespace ErrorCatalog

namespace Yaml

/-- What is left to compose, and what is known so far. -/
structure Composer where
  tokens : List Token
  /-- The numbers of the anchors by name. -/
  anchors : Register Nat := Register.empty
  prefixes : List (String × List UInt8) := Tag.defaultPrefixes

/-- A step of composing a document, which can fail. -/
abbrev Compose := StateT Composer Option

namespace Compose

/-- The next token. -/
def peek : Compose (Option Token) := do return (← get).tokens.head?

/-- Go on to the token after the next one. -/
def advance : Compose Unit :=
  modify fun composer => { composer with tokens := composer.tokens.tail }

/-- Take the next token if it is a given one. -/
def accept (token : Token) : Compose Bool := do
  if (← peek) = some token then
    advance
    return true
  else return false

/-- Take the next token, which must be a given one. -/
def expect (token : Token) : Compose Unit := do
  if ← accept token then return else failure

/-- Whether the next token is one of some tokens. -/
def comes (tokens : List Token) : Compose Bool := do
  return (← peek).any tokens.contains

/-- The number for an anchor. -/
def anchorNumber (name : String) : Compose Nat := do
  let composer ← get
  let number := composer.anchors.size
  set { composer with anchors := composer.anchors.insert name number }
  return number

/-- The full tag for a written one. -/
def fullTag (tag : TagToken) : Compose Tag := do
  match Tag.resolve? (← get).prefixes tag with
  | some full => return full
  | none => failure

/-- The anchor and the tag in front of a node. -/
structure Properties where
  anchor : Option String := none
  tag : Option Tag := none

/-- Take an anchor, if one comes next. -/
def anchorName : Compose (Option String) := do
  match ← peek with
  | some (.anchor name) =>
      advance
      return some name
  | _ => return none

/-- Take a tag, if one comes next. -/
def tagName : Compose (Option Tag) := do
  match ← peek with
  | some (.tag tag) =>
      advance
      return some (← fullTag tag)
  | _ => return none

/-- Take an anchor and a tag, in either order. -/
def properties : Compose Properties := do
  match ← anchorName with
  | some name => return { anchor := some name, tag := ← tagName }
  | none =>
      match ← tagName with
      | some tag => return { anchor := ← anchorName, tag := some tag }
      | none => return {}

/-- The node of an alias. -/
def aliasNode (name : String) : Compose Node := do
  match (← get).anchors.find? name with
  | some number => return .alias number
  | none => failure

/-- The node of a value that is left out. -/
def absentNode : Node := .scalar none Scalar.absent

/-- The tokens that may follow a key or a value that is left out in a block mapping. -/
def blockStops : List Token := [.key, .value, .blockEnd]

/-- Compose a node unless one of some tokens comes next. -/
def unlessComes (stops : List Token) (node : Compose Node) : Compose Node := do
  if ← comes stops then return absentNode else node

/-- Compose a value after its sign, if there is one. -/
def valueUnless (stops : List Token) (node : Compose Node) : Compose Node := do
  if ← accept .value then unlessComes stops node else return absentNode

mutual

/-- Compose a node in at most `fuel` nested or successive steps. It may be a block if `block`
is set, and a block sequence that is not indented if `bare` is set. -/
def node (block bare : Bool) : Nat → Compose Node
  | 0 => failure
  | fuel + 1 => do
      if let some (.alias name) ← peek then
        advance
        return ← aliasNode name
      let properties ← properties
      let tag := properties.tag
      let anchor ← properties.anchor.mapM anchorNumber
      if bare && (← comes [.blockEntry]) then
        return .sequence anchor tag (← bareItems fuel [])
      match ← peek with
      | some (.scalar text style) =>
          advance
          return .scalar anchor { text, style, tag }
      | some .flowSequenceStart =>
          advance
          return .sequence anchor tag (← flowItems fuel [])
      | some .flowMappingStart =>
          advance
          return .mapping anchor tag (← flowEntries fuel [])
      | next =>
          if block && next = some .blockSequenceStart then
            advance
            return .sequence anchor tag (← blockItems fuel [])
          else if block && next = some .blockMappingStart then
            advance
            return .mapping anchor tag (← blockEntries fuel [])
          else if anchor.isSome || tag.isSome then
            return .scalar anchor { Scalar.absent with tag := tag }
          else failure

/-- Compose the items of a block sequence after those so far, newest first. -/
def blockItems : Nat → List Node → Compose (List Node)
  | 0, _ => failure
  | fuel + 1, items => do
      if ← accept .blockEntry then
        let item ← unlessComes [.blockEntry, .blockEnd] (node true false fuel)
        blockItems fuel (item :: items)
      else
        expect .blockEnd
        return items.reverse

/-- Compose the items of a block sequence that is not indented. -/
def bareItems : Nat → List Node → Compose (List Node)
  | 0, _ => failure
  | fuel + 1, items => do
      if ← accept .blockEntry then
        let item ← unlessComes (.blockEntry :: blockStops) (node true false fuel)
        bareItems fuel (item :: items)
      else return items.reverse

/-- Compose the entries of a block mapping. -/
def blockEntries : Nat → List (Node × Node) → Compose (List (Node × Node))
  | 0, _ => failure
  | fuel + 1, entries => do
      if ← accept .key then
        let key ← unlessComes blockStops (node true true fuel)
        let value ← valueUnless blockStops (node true true fuel)
        blockEntries fuel ((key, value) :: entries)
      else
        expect .blockEnd
        return entries.reverse

/-- Compose the items of a flow sequence. An item that starts with a key is a mapping with one
entry. -/
def flowItems : Nat → List Node → Compose (List Node)
  | 0, _ => failure
  | fuel + 1, items => do
      if ← accept .flowSequenceEnd then return items.reverse
      if ¬ items.isEmpty then expect .flowEntry
      if ← accept .key then
        let entry ← flowPair fuel
        flowItems fuel (.mapping none none [entry] :: items)
      else if ← accept .flowSequenceEnd then return items.reverse
      else
        let item ← node false false fuel
        flowItems fuel (item :: items)

/-- Compose a key and a value among the items of a flow sequence. The token after a key that is
left out is lost. -/
def flowPair : Nat → Compose (Node × Node)
  | 0 => failure
  | fuel + 1 => do
      let key ←
        if ← comes [.value, .flowEntry, .flowSequenceEnd] then
          advance
          pure absentNode
        else node false false fuel
      let value ← valueUnless [.flowEntry, .flowSequenceEnd] (node false false fuel)
      return (key, value)

/-- Compose the entries of a flow mapping. -/
def flowEntries : Nat → List (Node × Node) → Compose (List (Node × Node))
  | 0, _ => failure
  | fuel + 1, entries => do
      if ← accept .flowMappingEnd then return entries.reverse
      if ¬ entries.isEmpty then expect .flowEntry
      if ← accept .key then
        let key ← unlessComes [.value, .flowEntry, .flowMappingEnd] (node false false fuel)
        let value ← valueUnless [.flowEntry, .flowMappingEnd] (node false false fuel)
        flowEntries fuel ((key, value) :: entries)
      else if ← accept .flowMappingEnd then return entries.reverse
      else
        let key ← node false false fuel
        flowEntries fuel ((key, absentNode) :: entries)

end

/-- Take the directives in front of a document, after those so far. The version must be a known
one, and nothing may be set twice. -/
def directives : List Directive → List Token → Compose (List Directive)
  | read, .directive (.version major minor) :: rest => do
      let seen := read.any fun directive => match directive with
        | .version _ _ => true
        | .tagPrefix _ _ => false
      if seen ∨ major ≠ 1 ∨ (minor ≠ 1 ∧ minor ≠ 2) then failure
      directives (.version major minor :: read) rest
  | read, .directive (.tagPrefix handle start) :: rest => do
      let seen := read.any fun directive => match directive with
        | .version _ _ => false
        | .tagPrefix other _ => other = handle
      if seen then failure
      directives (.tagPrefix handle start :: read) rest
  | read, rest => do
      modify fun composer => { composer with tokens := rest }
      return read

/-- Whether a token cannot belong to the content of a document. -/
def isOutside : Token → Bool
  | .directive _ | .documentStart | .documentEnd => true
  | _ => false

/-- The prefixes that directives set. -/
def prefixesOf (directives : List Directive) : List (String × List UInt8) :=
  directives.filterMap fun directive => match directive with
    | .version _ _ => none
    | .tagPrefix handle start => some (handle, start)

/-- Compose the content of a document, which is marked by a start or not. -/
def content (fuel : Nat) : Compose Node := do
  let composer ← get
  match composer.tokens with
  | .documentStart :: _ | .directive _ :: _ =>
      let declared := prefixesOf (← directives [] composer.tokens)
      expect .documentStart
      modify fun composer => { composer with prefixes := declared ++ composer.prefixes }
      if (← peek).all isOutside then return absentNode else node true false fuel
  | [] => return absentNode
  | _ => node true false fuel

/-- Compose the content of the only document. Nothing but marks of its end may follow. -/
def document (fuel : Nat) : Compose Document := do
  let root ← content fuel
  if (← get).tokens.all (· = .documentEnd) then return .ofNode root else failure

end Compose

namespace Document

/-- The single document of a text. A text without a document counts as an absent scalar. -/
def ofText? (text : String) : Option Document := do
  let tokens ← Token.scan? (← characters? text)
  let (document, _) ← (Compose.document (3 * tokens.length + 3)).run { tokens := tokens }
  return document

end Document

end Yaml

end ErrorCatalog
