import ErrorCatalog.Pattern.Expression
import ErrorCatalog.Pattern.Search

/-!
# From expressions to nodes

Every choice of an expression gets a number of its own. A repetition with
counts is written out: the copies that must occur, and then optional copies
each inside the one before.
-/

namespace ErrorCatalog

namespace Pattern

namespace Expression

/-- The sequence of some nodes. -/
def sequence : List Node → Node
  | [] => .empty
  | [node] => node
  | node :: rest => .seq node (sequence rest)

/-- Copies of a node one after the other, and the next free number. -/
def copies (build : Nat → Node × Nat) : Nat → Nat → List Node × Nat
  | 0, next => ([], next)
  | count + 1, next =>
      let (node, next) := build next
      let (nodes, next) := copies build count next
      (node :: nodes, next)

/-- Optional copies of a node, each inside the one before, and the next free number. -/
def optionals (build : Nat → Node × Nat) (greedy : Bool) : Nat → Nat → Node × Nat
  | 0, next => (.empty, next)
  | count + 1, next =>
      let (node, afterNode) := build (next + 1)
      match count with
      | 0 => (.opt next greedy node, afterNode)
      | count + 1 =>
          let (inner, last) := optionals build greedy (count + 1) afterNode
          (.opt next greedy (.seq node inner), last)

/-- An unbounded repetition of at least `least` copies, and the next free number. A body that
can match the empty text is repeated at least once or skipped as a whole. -/
def unbounded (build : Nat → Node × Nat) (consuming greedy : Bool) (least next : Nat) :
    Node × Nat :=
  match least with
  | 0 =>
      if consuming then
        let (node, last) := build (next + 1)
        (.loop next greedy false node, last)
      else
        let (node, last) := build (next + 2)
        (.opt next greedy (.loop (next + 1) greedy true node), last)
  | least + 1 =>
      let (nodes, next) := copies build least next
      let (node, last) := build (next + 1)
      (sequence (nodes ++ [.loop next greedy true node]), last)

/-- A repetition between two counts, and the next free number. -/
def bounded (build : Nat → Node × Nat) (greedy : Bool) (least most next : Nat) : Node × Nat :=
  let (nodes, next) := copies build least next
  if most ≤ least then (sequence nodes, next)
  else
    let (rest, last) := optionals build greedy (most - least) next
    (sequence (nodes ++ [rest]), last)

mutual

/-- The node of an expression whose choices are numbered from `next` on, and the next free
number. -/
def toNode : Expression → Nat → Node × Nat
  | .empty, next => (.empty, next)
  | .literal text, next => (.literal text, next)
  | .one _ set, next => (.one set, next)
  | .boundary condition, next => (.boundary condition, next)
  | .repeated least most greedy body, next =>
      match most with
      | none => unbounded body.toNode body.isConsuming greedy least next
      | some most => bounded body.toNode greedy least most next
  | .group index body, next =>
      let (node, next) := body.toNode next
      (.group index node, next)
  | .concat items, next =>
      let (nodes, next) := toNodes items next
      (sequence nodes, next)
  | .alternatives branches, next => toChoice branches next

/-- The nodes of successive expressions. -/
def toNodes : List Expression → Nat → List Node × Nat
  | [], next => ([], next)
  | item :: rest, next =>
      let (node, next) := item.toNode next
      let (nodes, next) := toNodes rest next
      (node :: nodes, next)

/-- The choice between the nodes of some expressions, in their order. -/
def toChoice : List Expression → Nat → Node × Nat
  | [], next => (.one CharSet.empty, next)
  | [branch], next => branch.toNode next
  | branch :: rest, next =>
      let (node, afterNode) := branch.toNode (next + 1)
      let (others, last) := toChoice rest afterNode
      (.alt next node others, last)

end

end Expression

end Pattern

end ErrorCatalog
