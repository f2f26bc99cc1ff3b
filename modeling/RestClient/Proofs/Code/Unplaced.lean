import RestClient.Code.Attribute

/-!
# Code without places

Code that is moved to another place in a text is still the same code. What it says without its
places is what all of its copies have in common: trees, types, paths, expressions and attributes,
each with the places left out at every depth. A mark at the end of what is moved can get another
mark right behind it, so this is left out too.

## Main definitions

- `TokenTree.unplaced`, `unplacedTrees` — trees without their places
- `TypeExpr.unplaced` — a type without the places of its tokens
- `PathExpr.unplaced`, `Expr.unplaced`, `MetaItem.unplaced` — what is made of them
-/

namespace RestClient.Code

mutual

/-- A tree without its place: where it stands, and whether a mark stands right behind it. -/
def TokenTree.unplaced : TokenTree → TokenTree
  | .ident text _ => .ident text .nowhere
  | .lifetime text _ => .lifetime text .nowhere
  | .punct c _ _ => .punct c false .nowhere
  | .literal text _ => .literal text .nowhere
  | .group d trees _ => .group d (unplacedTrees trees) .nowhere

/-- Trees without their places. -/
def unplacedTrees : Tokens → Tokens
  | [] => []
  | tree :: rest => tree.unplaced :: unplacedTrees rest

end

mutual

/-- A type without the places of its tokens. -/
def TypeExpr.unplaced : TypeExpr → TypeExpr
  | .reference tokens t => .reference (unplacedTrees tokens) t.unplaced
  | .paren tokens t => .paren (unplacedTrees tokens) t.unplaced
  | .slice tokens t => .slice (unplacedTrees tokens) t.unplaced
  | .array tokens t => .array (unplacedTrees tokens) t.unplaced
  | .tuple tokens ts => .tuple (unplacedTrees tokens) (unplacedTypes ts)
  | .path tokens self names arguments =>
    .path (unplacedTrees tokens) (unplacedSelf self) names (unplacedTypes arguments)
  | .implTrait tokens bounds => .implTrait (unplacedTrees tokens) (unplacedBounds bounds)
  | .traitObject tokens bounds => .traitObject (unplacedTrees tokens) (unplacedBounds bounds)
  | .other tokens => .other (unplacedTrees tokens)

/-- Types without the places of their tokens. -/
def unplacedTypes : List TypeExpr → List TypeExpr
  | [] => []
  | t :: rest => t.unplaced :: unplacedTypes rest

/-- A self type without the places of its tokens. -/
def unplacedSelf : Option TypeExpr → Option TypeExpr
  | none => none
  | some t => some t.unplaced

/-- A bound without the places of its tokens. -/
def Bound.unplaced : Bound → Bound
  | .trait name arguments => .trait name (unplacedTypes arguments)
  | .other => .other

/-- Bounds without the places of their tokens. -/
def unplacedBounds : List Bound → List Bound
  | [] => []
  | b :: rest => b.unplaced :: unplacedBounds rest

end

/-- A segment of a path without the places of its type arguments. -/
def Segment.unplaced (s : Segment) : Segment :=
  { s with arguments := s.arguments.map unplacedTypes }

/-- A path without the places of its types. -/
def PathExpr.unplaced (p : PathExpr) : PathExpr :=
  { p with self := unplacedSelf p.self, segments := p.segments.map Segment.unplaced }

/-- An expression without its places. -/
def Expr.unplaced (e : Expr) : Expr where
  form :=
    match e.form with
    | .path p => .path p.unplaced
    | form => form
  tokens := unplacedTrees e.tokens

/-- What an attribute holds, without its places. -/
def MetaItem.unplaced (m : MetaItem) : MetaItem where
  path := m.path.unplaced
  form :=
    match m.form with
    | .path => .path
    | .list d trees _ => .list d (unplacedTrees trees) .nowhere
    | .nameValue value => .nameValue value.unplaced
  tokens := unplacedTrees m.tokens

/-! ### What places do not change -/

theorem TokenTree.span_unplaced (tree : TokenTree) : tree.unplaced.span = .nowhere := by
  cases tree <;> simp only [unplaced, span]

theorem unplacedTrees_eq_map (trees : Tokens) :
    unplacedTrees trees = trees.map TokenTree.unplaced := by
  induction trees with
  | nil => simp only [unplacedTrees, List.map_nil]
  | cons tree rest ih => simp only [unplacedTrees, List.map_cons, ih]

theorem spanOf_unplacedTrees (trees : Tokens) : spanOf (unplacedTrees trees) = .nowhere := by
  rw [unplacedTrees_eq_map]
  cases trees with
  | nil => rfl
  | cons first rest =>
    have hlast : (((rest.map TokenTree.unplaced).getLast?.getD first.unplaced).span) =
        .nowhere := by
      rw [List.getLast?_map, Option.getD_map, TokenTree.span_unplaced]
    rw [List.map_cons, spanOf, hlast, TokenTree.span_unplaced]
    rfl

theorem Segment.isPlain_unplaced (s : Segment) :
    (s.unplaced.arguments.isNone && !s.unplaced.parenthesized) =
      (s.arguments.isNone && !s.parenthesized) := by
  rw [Segment.unplaced, Option.isNone_map]

theorem PathExpr.isPlain_unplaced (p : PathExpr) : p.unplaced.isPlain = p.isPlain := by
  show (p.segments.map Segment.unplaced).all _ = _
  rw [List.all_map]
  exact congrArg p.segments.all (funext Segment.isPlain_unplaced)

theorem PathExpr.ident?_unplaced (p : PathExpr) : p.unplaced.ident? = p.ident? := by
  have hplain := p.isPlain_unplaced
  unfold ident?
  rw [hplain, show p.unplaced.segments = p.segments.map Segment.unplaced from rfl,
    show p.unplaced.global = p.global from rfl]
  cases p.segments with
  | nil => rfl
  | cons s rest => cases rest <;> rfl

/-- The type that a path is, without places, is the type that it is without places. -/
theorem PathExpr.toType_unplaced (p : PathExpr) (tokens : Tokens) :
    p.unplaced.toType (unplacedTrees tokens) = (p.toType tokens).unplaced := by
  have hnames : (p.segments.map Segment.unplaced).map Segment.name =
      p.segments.map Segment.name := by
    rw [List.map_map]
    rfl
  have hlast : ((p.segments.map Segment.unplaced).getLast?.bind Segment.arguments).getD [] =
      unplacedTypes ((p.segments.getLast?.bind Segment.arguments).getD []) := by
    rw [List.getLast?_map]
    cases p.segments.getLast? with
    | none => simp [unplacedTypes]
    | some s =>
      show (s.arguments.map unplacedTypes).getD [] = unplacedTypes (s.arguments.getD [])
      cases s.arguments with
      | none => simp [unplacedTypes]
      | some ts => rfl
  rw [toType, toType, TypeExpr.unplaced, ← hlast, ← hnames]
  rfl

theorem Expr.span_unplaced (e : Expr) : e.unplaced.span = .nowhere :=
  spanOf_unplacedTrees e.tokens

theorem Expr.form_unplaced_eq_string {e : Expr} {text : String} :
    e.unplaced.form = .string text ↔ e.form = .string text := by
  unfold unplaced
  cases e.form <;> simp

theorem Expr.form_unplaced_eq_path {e : Expr} {q : PathExpr} :
    e.unplaced.form = .path q ↔ ∃ p, e.form = .path p ∧ p.unplaced = q := by
  unfold unplaced
  cases e.form <;> simp

theorem MetaItem.form_unplaced_eq_nameValue {m : MetaItem} {value : Expr} :
    m.unplaced.form = .nameValue value ↔ ∃ v, m.form = .nameValue v ∧ v.unplaced = value := by
  unfold unplaced
  cases m.form <;> simp

end RestClient.Code
