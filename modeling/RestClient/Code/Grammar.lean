import RestClient.Code.Expr
import RestClient.Code.Parser

/-!
# Nested constructs

Types, expressions and patterns contain each other. Each of their parsers takes the parsers for
what may be nested in it as a record; the records are tied together level by level, up to the depth
that the number of tokens allows.

## Main definitions

- `Nested` — the parsers for nested constructs
- `Nested.none` — the record for no further nesting
-/

namespace RestClient.Code

/-- How tightly operators bind, from the loosest on. -/
inductive Precedence where
  | least
  | assign
  | range
  | or
  | and
  | compare
  | bitOr
  | bitXor
  | bitAnd
  | shift
  | sum
  | product
  | cast
  deriving DecidableEq, Repr

/-- The rank of a precedence. -/
def Precedence.rank : Precedence → Nat
  | least => 0
  | assign => 1
  | range => 2
  | or => 3
  | and => 4
  | compare => 5
  | bitOr => 6
  | bitXor => 7
  | bitAnd => 8
  | shift => 9
  | sum => 10
  | product => 11
  | cast => 12

/-- The parsers for what may be nested in a construct. A type may be allowed to go on with further
bounds; an expression may be allowed to end in the braces of a structure. -/
structure Nested where
  type : Bool → Parser TypeExpr
  bound : Parser Bound
  expr : Bool → Parser Expr
  unary : Bool → Parser Expr
  climb : Bool → Precedence → Expr → Parser Expr
  statements : Parser Unit
  pattern : Parser Unit
  alternatives : Parser Unit

/-- Nothing may be nested any more. -/
def Nested.none : Nested where
  type _ := Parser.fail .nestingTooDeep
  bound := Parser.fail .nestingTooDeep
  expr _ := Parser.fail .nestingTooDeep
  unary _ := Parser.fail .nestingTooDeep
  climb _ _ _ := Parser.fail .nestingTooDeep
  statements := Parser.fail .nestingTooDeep
  pattern := Parser.fail .nestingTooDeep
  alternatives := Parser.fail .nestingTooDeep

end RestClient.Code
