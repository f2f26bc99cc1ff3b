import RestClient.Code.Token

/-!
# Type expressions

Types as they are written. Every node has the tokens that it is written with; beside them stands
what queries look at: the element of a reference, the segments of a path, the bounds of an object.

## Main definitions

- `TypeExpr`, `Bound` — types, and the bounds of `impl` and `dyn` types
- `TypeExpr.tokens`, `TypeExpr.code`, `TypeExpr.span` — how a type is written, and where
-/

namespace RestClient.Code

mutual

/-- A type. The arguments of a path are the type arguments in the angle brackets of its last
segment; lifetimes, constants and bindings are none. A qualified path has a self type. An invisible
group around a type is like parentheses. -/
inductive TypeExpr where
  | reference (tokens : Tokens) (inner : TypeExpr)
  | paren (tokens : Tokens) (inner : TypeExpr)
  | slice (tokens : Tokens) (element : TypeExpr)
  | array (tokens : Tokens) (element : TypeExpr)
  | tuple (tokens : Tokens) (elements : List TypeExpr)
  | path (tokens : Tokens) (self : Option TypeExpr) (names : List String)
      (arguments : List TypeExpr)
  | implTrait (tokens : Tokens) (bounds : List Bound)
  | traitObject (tokens : Tokens) (bounds : List Bound)
  | other (tokens : Tokens)

/-- A bound: a trait by the last segment of its path, with the type arguments in its angle
brackets, or anything else. -/
inductive Bound where
  | trait (name : String) (arguments : List TypeExpr)
  | other

end

instance : Inhabited TypeExpr := ⟨.other []⟩

namespace TypeExpr

/-- The tokens that a type is written with. -/
def tokens : TypeExpr → Tokens
  | reference t _ | paren t _ | slice t _ | array t _ | tuple t _ | path t _ _ _
  | implTrait t _ | traitObject t _ | other t => t

/-- The place of a type. -/
def span (t : TypeExpr) : Span :=
  spanOf t.tokens

end TypeExpr

end RestClient.Code
