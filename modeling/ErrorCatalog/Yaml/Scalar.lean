import ErrorCatalog.Yaml.Tag

/-!
# Scalars

A scalar is a text together with the way in which it is written and its tag.
-/

namespace ErrorCatalog

namespace Yaml

/-- The ways to write a scalar. -/
inductive ScalarStyle where
  | plain
  | singleQuoted
  | doubleQuoted
  | literal
  | folded
  deriving Repr, DecidableEq

/-- A scalar of a document. -/
structure Scalar where
  text : String
  style : ScalarStyle
  tag : Option Tag := none
  deriving Repr, DecidableEq

namespace Scalar

/-- The scalar that stands for a value left out. -/
def absent : Scalar := { text := "", style := .plain }

/-- Whether nothing is written for the scalar, apart from a tag. -/
def isAbsent (scalar : Scalar) : Bool := scalar.text.isEmpty && scalar.style = .plain

end Scalar

end Yaml

end ErrorCatalog
