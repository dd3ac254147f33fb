import ErrorCatalog.Register
import ErrorCatalog.Yaml.Node
import ErrorCatalog.Yaml.Resolution

/-!
# Reading documents

Readers for the nodes of a document. A reader is told how deep collections may
still be nested, and all readers together can follow only so many aliases.

- `Reading.text`, `Reading.flag`, `Reading.optional` read scalars;
- `Reading.items`, `Reading.entries`, `Reading.structure` read collections,
  for which an absent scalar may stand as well;
- `Reading.value` and `Reading.content` read nodes of any form.
-/

namespace ErrorCatalog

namespace Yaml

/-- A reading of a document. The state is the number of aliases that may still be followed. -/
abbrev Reading := ReaderT Document (StateT Nat Option)

/-- How a node is read, given how deep collections may still be nested there. -/
abbrev NodeReader (α : Type) := Nat → Node → Reading α

/-- A node of any form, as far as readers tell it apart. -/
inductive Content where
  | scalar (resolved : Resolved)
  | items (items : List Content)
  | entries (entries : List (Content × Content))

namespace Reading

variable {α : Type}

/-- How deep collections may be nested. -/
def maxDepth : Nat := 128

/-- Accept what is present. -/
def accept : Option α → Reading α
  | some result => return result
  | none => failure

/-- The node that an alias stands for; other nodes stand for themselves. -/
def follow : Node → Reading Node
  | .alias number => do
      let left ← get
      if left = 0 then failure
      set (left - 1)
      accept ((← read).target? number)
  | node => return node

/-- The text of a scalar. -/
def text : NodeReader String := fun _ node => do
  match ← follow node with
  | .scalar _ content => return content.text
  | _ => failure

/-- Whether a scalar can be a boolean. -/
def isFlag (content : Scalar) : Bool :=
  content.style = .plain || (content.style = .literal && content.tag = some Tag.bool)

/-- A boolean, whatever its tag. -/
def flag : NodeReader Bool := fun _ node => do
  match ← follow node with
  | .scalar _ content =>
      if isFlag content then accept (Resolution.bool? content.text) else failure
  | _ => failure

/-- Whether a scalar stands for a value that is left out. What is tagged as null must be. -/
def isOmitted? (content : Scalar) : Option Bool :=
  if content.style ≠ .plain then some false
  else
    match content.tag with
    | some tag =>
        if tag ≠ Tag.null then some false
        else if Resolution.isNull content.text then some true
        else none
    | none => some (content.text.isEmpty || Resolution.isNull content.text)

/-- A value that may be left out. -/
def optional (read : NodeReader α) : NodeReader (Option α) := fun depth node => do
  match ← follow node with
  | .scalar anchor content =>
      if ← accept (isOmitted? content) then return none
      else return some (← read depth (.scalar anchor content))
  | node => return some (← read depth node)

/-- The items of a sequence. -/
def items (read : NodeReader α) : NodeReader (List α) := fun depth node => do
  match ← follow node, depth with
  | .sequence _ _ nodes, depth + 1 => nodes.mapM (read depth)
  | .scalar _ content, _ => if content.isAbsent then return [] else failure
  | _, _ => failure

/-- The nodes of a mapping by the texts of their keys, with the depth inside of it. -/
def pairs : NodeReader (Nat × List (String × Node)) := fun depth node => do
  match ← follow node, depth with
  | .mapping _ _ nodes, depth + 1 =>
      return (depth, ← nodes.mapM fun (key, value) => do return (← text depth key, value))
  | .scalar _ content, depth => if content.isAbsent then return (depth, []) else failure
  | _, _ => failure

/-- The entries of a mapping; of several with one key the last one counts. -/
def entries (read : NodeReader α) : NodeReader (Register α) := fun depth node => do
  let (depth, nodes) ← pairs depth node
  return Register.ofList (← nodes.mapM fun (key, value) => do return (key, ← read depth value))

/-- The known fields of a mapping. -/
structure Members where
  /-- How deep the fields may be nested. -/
  depth : Nat
  /-- The nodes of the fields that are present. -/
  nodes : List (String × Node)

/-- The fields of a mapping that have one of some names, each at most once. -/
def members (names : List String) : NodeReader Members := fun depth node => do
  let (depth, nodes) ← pairs depth node
  let known := nodes.filter fun entry => names.contains entry.1
  if (known.map (·.1)).Nodup then return ⟨depth, known⟩ else failure

/-- The field of a name, or a default if it is missing. -/
def Members.get (members : Members) (name : String) (default : α)
    (read : NodeReader α) : Reading α :=
  match Register.findEntry? name members.nodes with
  | some node => read members.depth node
  | none => return default

/-- Refuse a local tag. -/
def refuseLocal (tag : Option Tag) : Reading Unit :=
  if tag.any Tag.isLocal then failure else return

/-- A value of any form. -/
def value (depth : Nat) (node : Node) : Reading Value := do
  match ← follow node, depth with
  | .scalar _ content, _ => return (← accept content.resolve?).toValue
  | .sequence _ tag nodes, depth + 1 =>
      refuseLocal tag
      return .array (← nodes.mapM (value depth))
  | .mapping _ tag nodes, depth + 1 =>
      refuseLocal tag
      return Value.ofFields (← nodes.mapM fun (key, node) => do
        return (← text depth key, ← value depth node))
  | _, _ => failure

/-- The fields of an object. -/
def fields : NodeReader Fields := fun depth node => do
  let (depth, nodes) ← pairs depth node
  return Fields.ofList (← nodes.mapM fun (key, node) => do return (key, ← value depth node))

/-- A node of any form, with keys of any form. -/
def content (depth : Nat) (node : Node) : Reading Content := do
  match ← follow node, depth with
  | .scalar _ content, _ => return .scalar (← accept content.resolve?)
  | .sequence _ tag nodes, depth + 1 =>
      refuseLocal tag
      return .items (← nodes.mapM (content depth))
  | .mapping _ tag nodes, depth + 1 =>
      refuseLocal tag
      return .entries (← nodes.mapM fun (key, node) => do
        return (← content depth key, ← content depth node))
  | _, _ => failure

end Reading

namespace Document

/-- Read a document from its outermost node on. -/
def read? {α : Type} (document : Document) (read : NodeReader α) : Option α := do
  let (result, _) ← ((read Reading.maxDepth document.root).run document).run document.aliasLimit
  return result

end Document

end Yaml

end ErrorCatalog
