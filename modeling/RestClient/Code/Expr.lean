import RestClient.Code.TypeExpr

/-!
# Expressions

Expressions as far as declarations use them: paths, strings and truth values have a meaning, every
other expression only has to be well-formed.

## Main definitions

- `Segment`, `PathExpr` — paths
- `Expr` — an expression
-/

namespace RestClient.Code

/-- A segment of a path: its name, the type arguments in its angle brackets if it has some, and
whether it has arguments in parentheses. -/
structure Segment where
  name : String
  arguments : Option (List TypeExpr)
  parenthesized : Bool

/-- A path: whether it starts with a double colon, its self type, and its segments. -/
structure PathExpr where
  global : Bool
  self : Option TypeExpr
  segments : List Segment

namespace PathExpr

/-- The segments have no arguments. -/
def isPlain (p : PathExpr) : Bool :=
  p.segments.all fun s => s.arguments.isNone && !s.parenthesized

/-- The name of a path that is a single name. -/
def ident? (p : PathExpr) : Option String :=
  match p.segments with
  | [s] => if !p.global && p.isPlain then some s.name else none
  | _ => none

/-- The path as a type that is written with `tokens`. -/
def toType (p : PathExpr) (tokens : Tokens) : TypeExpr :=
  .path tokens p.self (p.segments.map Segment.name)
    ((p.segments.getLast?.bind Segment.arguments).getD [])

end PathExpr

/-- What an expression is. Ranges, comparisons and blocks have rules of their own about what may
follow them. -/
inductive ExprForm where
  | path (p : PathExpr)
  | string (value : String)
  | bool (value : Bool)
  | range
  | comparison
  | block
  | other

/-- An expression and the tokens that it is written with. -/
structure Expr where
  form : ExprForm
  tokens : Tokens

/-- The place of an expression. -/
def Expr.span (e : Expr) : Span :=
  spanOf e.tokens

end RestClient.Code
