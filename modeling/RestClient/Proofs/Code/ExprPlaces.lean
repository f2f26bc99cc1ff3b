import RestClient.Code.ExprParser
import RestClient.Proofs.Code.TypePlaces

/-!
# Places in expressions

The parsers for expressions and statements keep to the places of the trees, provided that the
parsers for what is nested in them do; and so do, by induction on the depth, the parsers for nested
constructs.

## Main results

- `Nested.isLocated_ofDepth` — the parsers for nested constructs keep to the places
-/

namespace RestClient.Code

namespace Parser

section

-- the answers of the search for instances are as long as the parsers
set_option synthInstance.maxSize 100000

variable {g : Nested} [hg : g.IsLocated]

/-! ### Atoms -/

instance advances_block : Advances (block g) := by
  unfold block
  infer_instance

instance advances_callArguments : Advances (callArguments g) := by
  unfold callArguments
  infer_instance

instance advances_closure {allowStruct : Bool} : Advances (closure g allowStruct) := by
  unfold closure
  dsimp only
  infer_instance

instance located_structField : Located (structField g) := by
  unfold structField
  infer_instance

instance located_structFields : Located (structFields g) := by
  unfold structFields
  dsimp only
  infer_instance

instance advances_pathOrMore {allowStruct : Bool} : Advances (pathOrMore g allowStruct) := by
  unfold pathOrMore
  infer_instance

instance advances_parenthesizedExpr : Advances (parenthesizedExpr g) := by
  unfold parenthesizedExpr
  infer_instance

instance advances_arrayExpr : Advances (arrayExpr g) := by
  unfold arrayExpr
  infer_instance

instance advances_ifExpr : Advances (ifExpr g) := by
  unfold ifExpr
  infer_instance

instance located_matchArms : Located (matchArms g) := by
  unfold matchArms
  dsimp only
  infer_instance

instance advances_loopExpr : Advances (loopExpr g) := by
  unfold loopExpr
  infer_instance

instance located_jumpOperand {allowStruct : Bool} : Located (jumpOperand g allowStruct) := by
  unfold jumpOperand
  infer_instance

instance located_rangeExprEnd {allowStruct closed : Bool} :
    Located (rangeExprEnd g allowStruct closed) := by
  unfold rangeExprEnd
  dsimp only
  infer_instance

instance advances_rangeDots : Advances rangeDots := by
  refine ⟨fun region trees => meets_punct?.bind fun taken written found after _ h => ?_⟩
  refine .ite (fun hfound => .pure ?_) fun _ => ?_
  · obtain ⟨rfl, rfl, htaken⟩ := h
    rw [if_pos hfound] at htaken
    rw [List.append_nil, htaken]
    cases trees with
    | nil => cases hfound
    | cons tree rest => exact ⟨.refl _, List.cons_ne_nil _ _⟩
  · exact Meets.of_advances.mono fun _ _ _ _ => h.sameEnds.append_of_right_ne_nil

/-- A literal is a tree at least. -/
theorem meets_literalExpr {region trees : Tokens} (hliteral : isLiteral trees = true) :
    Meets literalExpr region trees fun taken written _ => SameEnds written taken ∧ taken ≠ [] := by
  obtain ⟨tree, rest, rfl⟩ : ∃ tree rest, trees = tree :: rest := by
    cases trees with
    | nil => cases hliteral
    | cons tree rest => exact ⟨tree, rest, rfl⟩
  refine .rest_bind ?_
  split
  · refine .skip_bind fun _ => ?_
    split
    · exact inferInstance
    · exact inferInstance
  · exact .skip_bind fun _ => inferInstance
  · exact .skip_bind fun _ => inferInstance

instance advances_atom {allowStruct : Bool} : Advances (atom g allowStruct) := by
  refine ⟨fun region trees => .rest_bind ?_⟩
  exact .ite (fun hliteral => meets_literalExpr hliteral) fun _ => .of_advances

/-! ### Operators -/

instance located_member : Located (member g) := by
  unfold member
  infer_instance

instance located_trailers {form : ExprForm} : Located (trailers g form) := by
  unfold trailers
  dsimp only
  infer_instance

theorem meets_unary {allowStruct : Bool} {region trees : Tokens} :
    Meets (unary g allowStruct) region trees
      fun taken written e => (SameEnds written taken ∧ taken ≠ []) ∧ e.tokens = written := by
  refine Meets.bind (Meets.recorded (Q := fun taken written _ =>
    SameEnds written taken ∧ taken ≠ []) ?_) ?_
  · refine Meets.bind (.of_located (p := discard (outerAttributes g))) ?_
    intro taken written _ after _ hends
    suffices hrest : Meets _ region after fun taken written _ =>
        SameEnds written taken ∧ taken ≠ [] from
      hrest.mono fun _ _ _ _ => hends.append_of_right_ne_nil
    refine .rest_bind ?_
    refine .ite (fun _ => .of_advances) fun _ => ?_
    refine .ite (fun _ => .ite (fun hliteral => ?_) fun _ => .of_advances) fun _ => .of_advances
    refine (meets_literalExpr hliteral).bind fun taken written form after _ hends => ?_
    exact Meets.of_located.mono fun _ _ _ _ => SameEnds.append_of_left_ne_nil hends
  · intro taken written r after _ h
    obtain ⟨rfl, hends⟩ := h
    refine .pure ?_
    rw [List.append_nil, List.append_nil]
    exact ⟨hends, rfl⟩

instance located_rightOperand {allowStruct : Bool} {p : Precedence} :
    Located (rightOperand g allowStruct p) := by
  unfold rightOperand
  dsimp only
  infer_instance

instance located_refuseAfterCast : Located refuseAfterCast := by
  unfold refuseAfterCast
  dsimp only
  infer_instance

theorem meets_climb {allowStruct : Bool} {base : Precedence} {operand : Expr}
    {region trees : Tokens} : Meets (climb g allowStruct base operand) region trees
      fun taken written e => SameEnds written taken ∧ e.tokens = operand.tokens ++ written := by
  set R : Expr → Tokens → Tokens → Expr → Prop := fun operand taken written e =>
    SameEnds written taken ∧ e.tokens = operand.tokens ++ written
  refine Meets.iterate (R := R) (fun operand trees => ?_) operand
  refine .rest_bind ?_
  extract_lets extend
  have hextend : ∀ form (more : Parser Unit) [Located more],
      Meets (extend form more) region trees (Contributes R operand) := by
    intro form more hmore
    refine (hmore.meets region trees).recorded.bind_pure fun taken written r after _ h => ?_
    obtain ⟨rfl, hends⟩ := h
    rintro taken' written' e ⟨hends', htokens⟩
    exact ⟨hends.append hends', by rw [htokens, List.append_assoc]⟩
  have hstop : Meets (pure (.inr operand)) region trees (Contributes R operand) :=
    .pure ⟨.refl [], (List.append_nil _).symm⟩
  refine .ite (fun _ => hstop) fun _ => ?_
  split
  · refine .ite (fun _ => hstop) fun _ => .ite (fun _ => .fail) fun _ => ?_
    exact hextend _ _
  · refine .ite (fun _ => hextend _ _) fun _ => ?_
    refine .ite (fun _ => hextend _ _) fun _ => ?_
    exact .ite (fun _ => hextend _ _) fun _ => hstop

theorem meets_expr {allowStruct : Bool} {region trees : Tokens} :
    Meets (expr g allowStruct) region trees
      fun taken written e => (SameEnds written taken ∧ taken ≠ []) ∧ e.tokens = written := by
  refine (hg.unary allowStruct region trees).bind fun taken written operand after _ h => ?_
  obtain ⟨hends, htokens⟩ := h
  refine (hg.climb allowStruct .least operand region after).mono fun taken' written' e _ h => ?_
  obtain ⟨hends', htokens'⟩ := h
  exact ⟨SameEnds.append_of_left_ne_nil hends hends', by rw [htokens', htokens]⟩

/-! ### Statements -/

instance located_declaration : Located declaration := by
  unfold declaration
  dsimp only
  infer_instance

instance located_binding : Located (binding g) := by
  unfold binding
  dsimp only
  infer_instance

instance located_exprStatement : Located (exprStatement g) := by
  unfold exprStatement
  dsimp only
  infer_instance

instance located_statements : Located (statements g) := by
  unfold statements
  infer_instance

end

end Parser

/-! ### Nested constructs -/

/-- Where nothing may be nested any more, every parser fails at the next tree. -/
instance Nested.isLocated_none : Nested.none.IsLocated where
  type _ _ _ := .fail
  bound := Parser.advances_fail
  expr _ _ _ := .fail
  unary _ _ _ := .fail
  climb _ _ _ _ _ := .fail
  statements := ⟨fun _ _ => .fail⟩
  pattern := Parser.advances_fail
  alternatives := ⟨fun _ _ => .fail⟩

theorem Nested.isLocated_ofDepth (n : Nat) : (Nested.ofDepth n).IsLocated := by
  induction n with
  | zero => exact Nested.isLocated_none
  | succ n ih =>
    exact {
      type := fun _ _ _ => Parser.meets_typeExpr
      bound := Parser.advances_bound
      expr := fun _ _ _ => Parser.meets_expr
      unary := fun _ _ _ => Parser.meets_unary
      climb := fun _ _ _ _ _ => Parser.meets_climb
      statements := Parser.located_statements
      pattern := Parser.advances_pattern
      alternatives := Parser.located_alternatives }

instance Nested.isLocated_ofTokens (trees : Tokens) : (Nested.ofTokens trees).IsLocated :=
  Nested.isLocated_ofDepth _

end RestClient.Code
