import RestClient.Code.PatternParser
import RestClient.Proofs.Code.Parsing

/-!
# Places in attributes, types and patterns

The parsers for attributes, types and patterns keep to the places of the trees, provided that the
parsers for what is nested in them do.

## Main definitions

- `Nested.IsLocated` — parsers for nested constructs that keep to the places
- `MetaForm.PlacedIn` — what an attribute holds is at places of a kind

## Main results

- `Parser.meets_metaItem`, `Parser.meets_outerAttributes` — where attributes are
- `Parser.meets_typeExpr` — where types are
-/

namespace RestClient.Code

/-- What an attribute holds behind its path is at places that satisfy `P`. -/
def MetaForm.PlacedIn (P : Span → Prop) : MetaForm → Prop
  | .path => True
  | .list d inner group => ∀ s, Place [.group d inner group] s → P s
  | .nameValue value => P value.span

theorem MetaForm.PlacedIn.mono {P P' : Span → Prop} {form : MetaForm} (h : form.PlacedIn P)
    (hP : ∀ s, P s → P' s) : form.PlacedIn P' := by
  cases form with
  | path => trivial
  | list d inner group => exact fun s hs => hP s (h s hs)
  | nameValue value => exact hP _ h

/-- An attribute is at places that satisfy `P`, and so is what it holds. -/
structure Attribute.PlacedIn (P : Span → Prop) (a : Attribute) : Prop where
  span : P a.span
  form : a.item.form.PlacedIn P

theorem Attribute.PlacedIn.mono {P P' : Span → Prop} {a : Attribute} (h : a.PlacedIn P)
    (hP : ∀ s, P s → P' s) : a.PlacedIn P' :=
  ⟨hP _ h.span, h.form.mono hP⟩

/-- The parsers for nested constructs keep to the places of the trees, and types and expressions
have the tokens that are written for them. -/
class Nested.IsLocated (g : Nested) : Prop where
  type : ∀ allowPlus region trees, Parser.Meets (g.type allowPlus) region trees
    fun taken written t => (SameEnds written taken ∧ taken ≠ []) ∧ t.tokens = written
  bound : Parser.Advances g.bound
  expr : ∀ allowStruct region trees, Parser.Meets (g.expr allowStruct) region trees
    fun taken written e => (SameEnds written taken ∧ taken ≠ []) ∧ e.tokens = written
  unary : ∀ allowStruct region trees, Parser.Meets (g.unary allowStruct) region trees
    fun taken written e => (SameEnds written taken ∧ taken ≠ []) ∧ e.tokens = written
  climb : ∀ allowStruct base operand region trees,
    Parser.Meets (g.climb allowStruct base operand) region trees
      fun taken written e => SameEnds written taken ∧ e.tokens = operand.tokens ++ written
  statements : Parser.Located g.statements
  pattern : Parser.Advances g.pattern
  alternatives : Parser.Located g.alternatives

namespace Parser

section

-- the answers of the search for instances are as long as the parsers
set_option synthInstance.maxSize 100000

variable {g : Nested} [hg : g.IsLocated]

instance advances_nestedType {allowPlus : Bool} : Advances (g.type allowPlus) :=
  ⟨fun region trees => (hg.type allowPlus region trees).mono fun _ _ _ _ => And.left⟩

instance advances_nestedBound : Advances g.bound :=
  hg.bound

instance advances_nestedExpr {allowStruct : Bool} : Advances (g.expr allowStruct) :=
  ⟨fun region trees => (hg.expr allowStruct region trees).mono fun _ _ _ _ => And.left⟩

instance advances_nestedUnary {allowStruct : Bool} : Advances (g.unary allowStruct) :=
  ⟨fun region trees => (hg.unary allowStruct region trees).mono fun _ _ _ _ => And.left⟩

instance located_nestedClimb {allowStruct : Bool} {base : Precedence} {operand : Expr} :
    Located (g.climb allowStruct base operand) :=
  ⟨fun region trees => (hg.climb allowStruct base operand region trees).mono
    fun _ _ _ _ => And.left⟩

instance located_nestedStatements : Located g.statements :=
  hg.statements

instance advances_nestedPattern : Advances g.pattern :=
  hg.pattern

instance located_nestedAlternatives : Located g.alternatives :=
  hg.alternatives

/-! ### Attributes -/

instance advances_modPath : Advances modPath := by
  unfold modPath
  dsimp only
  infer_instance

theorem meets_metaValue {region trees : Tokens} : Meets (metaValue g) region trees
    fun taken written e => (SameEnds written taken ∧ taken ≠ []) ∧ e.tokens = written := by
  have hexpr := hg.expr true region trees
  unfold metaValue
  dsimp only
  refine .peek_bind (.ite (fun _ => ?_) fun _ => hexpr)
  exact .peek2_bind (.ite (fun _ => .fail_bind) fun _ => hexpr)

/-- What an attribute holds, with its tokens and with the places that can be complained about. -/
theorem meets_metaItem {region trees : Tokens} : Meets (metaItem g) region trees
    fun taken written item => (SameEnds written taken ∧ taken ≠ []) ∧ item.tokens = written ∧
      item.form.PlacedIn (Place taken) := by
  unfold metaItem
  refine Meets.bind (Meets.recorded (Q := fun taken written r =>
    (SameEnds written taken ∧ taken ≠ []) ∧ r.2.PlacedIn (Place taken)) ?_) ?_
  · refine .peek_bind ?_
    extract_lets tail
    have htail : ∀ path trees, Meets (tail path) region trees fun taken written r =>
        SameEnds written taken ∧ r.2.PlacedIn (Place taken) := by
      intro path trees
      refine .rest_bind ?_
      split
      · refine meets_skip.bind ?_
        rintro _ _ _ after _ ⟨rfl, rfl⟩
        exact .pure ⟨.refl _, fun s hs => hs⟩
      · refine .ite (fun _ => ?_) fun _ => .pure ⟨.refl _, trivial⟩
        refine meets_punct.bind fun taken written _ after _ hpunct => ?_
        refine meets_metaValue.bind_pure fun taken' written' value after _ hvalue => ?_
        obtain ⟨⟨hends, hne⟩, htokens⟩ := hvalue
        refine ⟨hpunct.sameEnds.append hends, ?_⟩
        show Place (taken ++ taken') (spanOf value.tokens)
        rw [htokens, hends.spanOf_eq]
        exact .row hne (List.sublist_append_right taken taken')
    have hwhole : ∀ (first : Parser PathExpr) [Advances first] trees,
        Meets (first >>= tail) region trees fun taken written r =>
          (SameEnds written taken ∧ taken ≠ []) ∧ r.2.PlacedIn (Place taken) := by
      intro first hfirst trees
      refine (hfirst.meets region trees).bind fun taken written path after _ hends => ?_
      refine (htail path after).mono fun taken' written' r _ ⟨hends', hform⟩ => ?_
      exact ⟨SameEnds.append_of_left_ne_nil hends hends', hform.mono fun s hs => hs.right⟩
    refine .ite (fun _ => ?_) fun _ => hwhole modPath trees
    rw [← bind_assoc]
    exact hwhole _ trees
  · rintro taken written r after _ ⟨rfl, hends, hform⟩
    refine .pure ?_
    rw [List.append_nil, List.append_nil]
    exact ⟨hends, rfl, hform⟩

/-- An attribute behind its marks, which are written so that `W` holds. -/
theorem meets_attribute {marks : Parser Unit} {W : Tokens → Prop} {region trees : Tokens}
    (hmarks : Meets marks region trees fun taken written _ => SameEnds written taken ∧ W written) :
    Meets (recorded (marks >>= fun _ => attributeBrackets g)) region trees fun taken written r =>
      SameEnds written taken ∧ r.1 = written ∧ Attribute.PlacedIn (Place taken) ⟨r.2, r.1⟩ ∧
        ∃ front inner span, W front ∧ r.1 = front ++ [.group .bracket inner span] := by
  have hbrackets : ∀ trees, Meets (attributeBrackets g) region trees fun taken written item =>
      (SameEnds written taken ∧ taken ≠ []) ∧ item.form.PlacedIn (Place taken) ∧
        ∃ inner span, written = [.group .bracket inner span] := by
    intro trees
    refine (meets_within (Q := fun inner taken written item => item.form.PlacedIn (Place inner))
      fun inner => meets_metaItem.mono fun own _ _ hown h => ?_).bind_pure
        fun taken written r after _ h => ?_
    · exact h.2.2.mono fun s hs => hs.mono hown.sublist
    · obtain ⟨inner, _, _, rfl, rfl, -, hform⟩ := h
      exact ⟨⟨⟨rfl, rfl⟩, List.cons_ne_nil _ _⟩,
        hform.mono fun s hs => .inside List.mem_cons_self hs, _, _, rfl⟩
  have hattribute : Meets (marks >>= fun _ => attributeBrackets g) region trees
      fun taken written item => (SameEnds written taken ∧ taken ≠ []) ∧
        item.form.PlacedIn (Place taken) ∧
          ∃ front inner span, W front ∧ written = front ++ [.group .bracket inner span] := by
    refine hmarks.bind fun taken written _ after _ ⟨hends, hwritten⟩ => ?_
    refine (hbrackets after).mono fun taken' written' item _ h => ?_
    obtain ⟨hends', hform, inner, span, rfl⟩ := h
    exact ⟨hends.append_of_right_ne_nil hends', hform.mono fun s hs => hs.right, written, inner,
      span, hwritten, rfl⟩
  refine hattribute.recorded.mono fun taken written r _ h => ?_
  obtain ⟨rfl, ⟨hends, hne⟩, hform, hwritten⟩ := h
  refine ⟨hends, rfl, ⟨?_, hform⟩, hwritten⟩
  exact hends.place hne

/-- Attributes that have been taken, all of them with an exclamation mark behind the first mark or
all of them without: their tokens are those written, and all is at places of the trees taken. -/
def Attributed (inner : Bool) (taken written : Tokens) (attributes : List Attribute) : Prop :=
  SameEnds written taken ∧ attributes.flatMap Attribute.tokens = written ∧
    ∀ a ∈ attributes, a.PlacedIn (Place taken) ∧ isPunct "!" (a.tokens.drop 1) = inner

theorem Attributed.nil {inner : Bool} : Attributed inner [] [] [] :=
  ⟨.refl [], rfl, fun _ ha => nomatch ha⟩

theorem Attributed.cons {inner : Bool} {taken written taken' written' : Tokens} {a : Attribute}
    {attributes : List Attribute} (hends : SameEnds written taken) (htokens : a.tokens = written)
    (ha : a.PlacedIn (Place taken)) (hinner : isPunct "!" (a.tokens.drop 1) = inner)
    (h : Attributed inner taken' written' attributes) :
    Attributed inner (taken ++ taken') (written ++ written') (a :: attributes) := by
  obtain ⟨hends', rfl, hplaced⟩ := h
  refine ⟨hends.append hends', ?_, fun b hb => ?_⟩
  · rw [List.flatMap_cons, htokens]
  · rcases List.mem_cons.mp hb with rfl | hb
    · exact ⟨ha.mono fun s hs => hs.left, hinner⟩
    · exact ⟨(hplaced b hb).1.mono fun s hs => hs.right, (hplaced b hb).2⟩

theorem meets_mark {c : Char} {text : String} (htext : text.toList = [c]) {region trees : Tokens} :
    Meets (punct text) region trees fun taken written _ => SameEnds written taken ∧
      ∃ joint span, written = [.punct c joint span] := by
  refine meets_punct.mono fun taken written _ _ h => ⟨h.sameEnds, ?_⟩
  obtain ⟨rfl, rfl, hfront⟩ := h
  have hlength : text.length = 1 := by
    rw [← String.length_toList, htext]
    rfl
  unfold isPunct at hfront
  rw [htext] at hfront
  cases trees with
  | nil => cases hfront
  | cons tree rest =>
    cases tree with
    | punct d joint span =>
      obtain rfl : c = d := beq_iff_eq.mp hfront
      exact ⟨joint, span, by rw [hlength]; rfl⟩
    | _ => cases hfront

theorem meets_outerAttributes {region trees : Tokens} :
    Meets (outerAttributes g) region trees (Attributed false) := by
  refine .collect id fun done trees => ?_
  refine .peek_bind (.ite (fun _ => ?_) fun _ => .pure ⟨[], (List.append_nil _).symm, .nil⟩)
  refine (meets_attribute (meets_mark (c := '#') (by decide))).bind_pure
    fun taken written r after _ h => ?_
  obtain ⟨hends, htokens, hplaced, front, inner, span, ⟨joint, place, rfl⟩, hwritten⟩ := h
  refine ⟨⟨r.2, r.1⟩, rfl, fun _ _ _ => .cons hends htokens hplaced ?_⟩
  show isPunct "!" (r.1.drop 1) = false
  rw [hwritten]
  rfl

theorem meets_innerAttributes {region trees : Tokens} :
    Meets (innerAttributes g) region trees (Attributed true) := by
  refine .collect id fun done trees => ?_
  refine .peek_bind (.peek2_bind (.ite (fun _ => ?_) fun _ =>
    .pure ⟨[], (List.append_nil _).symm, .nil⟩))
  have hmarks : Meets (do punct "#"; punct "!") region trees fun taken written _ =>
      SameEnds written taken ∧ ∃ tree joint span, written = [tree, .punct '!' joint span] := by
    refine (meets_mark (c := '#') (by decide)).bind fun taken written _ after _ h => ?_
    refine (meets_mark (c := '!') (by decide)).mono fun taken' written' _ _ h' => ?_
    obtain ⟨hends, joint, span, rfl⟩ := h
    obtain ⟨hends', joint', span', rfl⟩ := h'
    exact ⟨hends.append hends', _, joint', span', rfl⟩
  have hattribute := meets_attribute (g := g) hmarks
  rw [bind_assoc] at hattribute
  refine hattribute.bind_pure fun taken written r after _ h => ?_
  obtain ⟨hends, htokens, hplaced, front, inner, span, ⟨tree, joint, place, rfl⟩, hwritten⟩ := h
  refine ⟨⟨r.2, r.1⟩, rfl, fun _ _ _ => .cons hends htokens hplaced ?_⟩
  show isPunct "!" (r.1.drop 1) = true
  rw [hwritten]
  rfl

instance located_outerAttributes : Located (outerAttributes g) :=
  ⟨fun _ _ => meets_outerAttributes.mono fun _ _ _ _ => And.left⟩

instance located_innerAttributes : Located (innerAttributes g) :=
  ⟨fun _ _ => meets_innerAttributes.mono fun _ _ _ _ => And.left⟩

/-! ### Paths and bounds -/

instance located_constantArgument : Located (constantArgument g) := by
  unfold constantArgument
  infer_instance

instance advances_parenthesizedArguments : Advances (parenthesizedArguments g) := by
  unfold parenthesizedArguments
  infer_instance

instance located_introducedLifetimes : Located (introducedLifetimes g) := by
  unfold introducedLifetimes
  dsimp only
  infer_instance

instance located_angleArgument : Located (angleArgument g) := by
  unfold angleArgument
  dsimp only
  infer_instance

instance advances_openingAngle : Advances (punct "<") :=
  advances_punct (by decide)

instance advances_closingAngle : Advances (punct ">") :=
  advances_punct (by decide)

instance advances_angleArguments : Advances (angleArguments g) := by
  unfold angleArguments
  dsimp only
  infer_instance

instance advances_pathSegment {inExpr : Bool} : Advances (pathSegment g inExpr) := by
  unfold pathSegment
  dsimp only
  infer_instance

instance advances_pathExpr {inExpr : Bool} : Advances (pathExpr g inExpr) := by
  unfold pathExpr
  infer_instance

instance advances_traitBound : Advances (traitBound g) := by
  unfold traitBound
  dsimp only
  infer_instance

instance advances_bound : Advances (bound g) := by
  unfold bound
  dsimp only
  infer_instance

instance advances_boundList {allowPlus : Bool} : Advances (boundList g allowPlus) := by
  unfold boundList
  dsimp only
  infer_instance

instance advances_qualifiedPath {inExpr : Bool} : Advances (qualifiedPath g inExpr) := by
  unfold qualifiedPath
  dsimp only
  infer_instance

instance located_moreBounds : Located (moreBounds g) := by
  unfold moreBounds
  infer_instance

instance located_callingConvention : Located callingConvention := by
  unfold callingConvention
  infer_instance

instance located_pointerArgument : Located (pointerArgument g) := by
  unfold pointerArgument
  dsimp only
  infer_instance

instance advances_functionPointer : Advances (functionPointer g) := by
  unfold functionPointer
  infer_instance

instance advances_typeOfPath {allowPlus introduced : Bool} :
    Advances (typeOfPath g allowPlus introduced) := by
  unfold typeOfPath
  dsimp only
  infer_instance

instance advances_bracketedType : Advances (bracketedType g) := by
  unfold bracketedType
  dsimp only
  infer_instance

/-! ### Types -/

/-- A complaint about bounds starts at what introduces them. -/
theorem meets_objectBounds {allowPlus : Bool} {start : Span} {region trees : Tokens}
    (hstart : ∀ taken, taken <+: trees → taken ≠ [] → trees <:+ region →
      Place region (start.through (spanOf taken))) :
    Meets (objectBounds g allowPlus start) region trees
      fun taken written _ => SameEnds written taken ∧ taken ≠ [] := by
  refine .of_suffix fun hregion => ?_
  have hbounds : Meets (boundList g allowPlus) region trees _ := .of_advances
  refine hbounds.recorded.bind fun taken written r after htrees h => ?_
  obtain ⟨rfl, hends, hne⟩ := h
  refine .ite (fun _ => .pure ?_) fun _ => .failAt fun _ => ?_
  · rw [List.append_nil, List.append_nil]
    exact ⟨hends, hne⟩
  · rw [hends.spanOf_eq]
    exact hstart taken ⟨after, htrees.symm⟩ hne hregion

/-- Bounds behind a word. -/
theorem place_through_word (word : TokenTree) (between : Tokens) {after taken trees region : Tokens}
    (htrees : trees = [word] ++ (between ++ after)) (hregion : trees <:+ region)
    (htaken : taken <+: after) (hne : taken ≠ []) :
    Place region (word.span.through (spanOf taken)) := by
  rw [← spanOf_cons hne]
  refine .row (List.cons_ne_nil _ _) (List.Sublist.trans ?_ hregion.sublist)
  rw [htrees]
  exact .cons_cons word (htaken.sublist.trans (List.sublist_append_right between after))

/-- Bounds that start with the tree that introduces them. -/
theorem place_through_head {taken trees region : Tokens} (hregion : trees <:+ region)
    (htaken : taken <+: trees) (hne : taken ≠ []) :
    Place region ((spanOf (trees.take 1)).through (spanOf taken)) := by
  obtain ⟨tree, rest, rfl⟩ := List.exists_cons_of_ne_nil hne
  obtain ⟨after, rfl⟩ := htaken
  have hsame : (spanOf ((tree :: rest ++ after).take 1)).through (spanOf (tree :: rest)) =
      spanOf (tree :: rest) := by
    rw [spanOf_eq_through (List.cons_ne_nil tree rest)]
    rfl
  rw [hsame]
  exact .row hne ((List.sublist_append_left _ _).trans hregion.sublist)

instance located_parenContent : Located (parenContent g) := by
  refine ⟨fun region trees => .rest_bind ?_⟩
  refine .ite (fun _ => .pure (.refl [])) fun _ => .ite (fun _ => ?_) fun _ => ?_
  · have hbounds : Meets (objectBounds g true (spanOf (trees.take 1))) region trees _ :=
      meets_objectBounds fun taken htaken hne hregion => place_through_head hregion htaken hne
    exact hbounds.recorded.bind_pure fun taken written r after _ h => h.2.1
  · exact .of_located

/-- A type takes the tokens that it is made of as they are. -/
def KeepsTokens (shape : Tokens → TypeExpr) : Prop :=
  ∀ tokens, (shape tokens).tokens = tokens

instance advances_parenthesizedType {allowPlus : Bool} :
    Advances (parenthesizedType g allowPlus) := by
  unfold parenthesizedType
  refine .bind fun r => ?_
  obtain ⟨content, span⟩ := r
  cases content with
  | single type =>
    dsimp only
    split <;> infer_instance
  | _ => infer_instance

end

section

variable {g : Nested}

theorem yields_parenthesizedType {allowPlus : Bool} :
    Yields (parenthesizedType g allowPlus) KeepsTokens := by
  refine .bind fun r => ?_
  obtain ⟨content, span⟩ := r
  cases content with
  | empty => exact .pure fun _ => rfl
  | objectOf tokens bounds => exact .pure fun _ => rfl
  | optionalBound first => exact .bind fun others => .pure fun _ => rfl
  | elements types => exact .pure fun _ => rfl
  | single type =>
    dsimp only
    split
    · refine .bind fun plus => .ite ?_ (.pure fun _ => rfl)
      exact .bind fun others => .pure fun _ => rfl
    · exact .pure fun _ => rfl

theorem yields_typeOfPath {allowPlus introduced : Bool} :
    Yields (typeOfPath g allowPlus introduced) KeepsTokens := by
  refine .bind fun path => ?_
  extract_lets bare last first
  refine .bind fun before => ?_
  extract_lets parenthesized tail
  have htail : ∀ r, Yields (tail r) KeepsTokens := by
    intro r
    refine .bind fun trees => ?_
    refine .ite (.pure fun _ => rfl) (.ite ?_ (.ite (.ite ?_ (.pure fun _ => rfl))
      (.pure fun _ => rfl)))
    · exact .bind fun _ => .bind fun _ => .pure fun _ => rfl
    · refine .bind fun _ => .bind fun _ => .ite ?_ (.pure fun _ => rfl)
      exact .bind fun others => .pure fun _ => rfl
  exact .ite (.bind fun _ => .bind htail) (htail ())

theorem yields_bracketedType : Yields (bracketedType g) KeepsTokens := by
  refine .bind fun r => ?_
  obtain ⟨⟨element, isArray⟩, span⟩ := r
  refine .pure ?_
  cases isArray <;> exact fun _ => rfl

theorem yields_typeShape {allowPlus : Bool} : Yields (typeShape g allowPlus) KeepsTokens := by
  have hother : ∀ q : Parser Unit, Yields (do q; return .other) KeepsTokens :=
    fun q => .bind fun _ => .pure fun _ => rfl
  refine .bind fun introduced => .bind fun trees => ?_
  refine .ite yields_parenthesizedType ?_
  refine .ite (hother _) ?_
  refine .ite yields_typeOfPath ?_
  refine .ite (.bind fun start => .bind fun starred => .bind fun bounds => .pure ?_) ?_
  · cases starred <;> exact fun _ => rfl
  refine .ite yields_bracketedType ?_
  refine .ite (.bind fun _ => .bind fun const => .bind fun mutable => ?_) ?_
  · exact .ite (.bind fun _ => hother _) (hother _)
  refine .ite (.bind fun _ => .bind fun _ => .bind fun _ => .bind fun inner =>
    .pure fun _ => rfl) ?_
  refine .ite (hother _) ?_
  refine .ite (.bind fun start => .bind fun r => .ite (.pure fun _ => rfl) .failAt) ?_
  refine .ite (hother _) ?_
  exact .ite (.bind fun bounds => .pure fun _ => rfl) .fail

end

section

set_option synthInstance.maxSize 100000

variable {g : Nested} [hg : g.IsLocated]

instance advances_exclamation : Advances (punct "!") :=
  advances_punct (by decide)

/-- Complaints about the bounds of a type start at the word or at the lifetime in front of them. -/
instance advances_typeShape {allowPlus : Bool} : Advances (typeShape g allowPlus) := by
  refine .bind_right fun introduced => ⟨fun region trees => .rest_bind ?_⟩
  refine .of_suffix fun hregion => ?_
  refine .ite (fun _ => .of_advances) fun _ => ?_
  refine .ite (fun _ => .of_advances) fun _ => ?_
  refine .ite (fun _ => .of_advances) fun _ => ?_
  refine .ite (fun _ => ?_) fun _ => ?_
  · -- `dyn` and bounds
    refine meets_word.bind fun word _ start afterWord htrees hword => ?_
    obtain ⟨rfl, rfl⟩ := hword
    refine meets_punct?.bind fun star _ starred afterStar hafter hstar => ?_
    have hbounds : Meets (objectBounds g allowPlus start) region afterStar _ :=
      meets_objectBounds fun taken htaken hne _ =>
        place_through_word (.ident "dyn" start) star (hafter ▸ htrees) hregion htaken hne
    refine hbounds.bind fun taken written bounds _ _ h => .pure ?_
    exact ⟨(SameEnds.refl _).append (hstar.sameEnds.append (h.1.append (.refl []))),
      List.cons_ne_nil _ _⟩
  refine .ite (fun _ => .of_advances) fun _ => ?_
  refine .ite (fun _ => .of_advances) fun _ => ?_
  refine .ite (fun _ => .of_advances) fun _ => ?_
  refine .ite (fun _ => .of_advances) fun _ => ?_
  refine .ite (fun _ => ?_) fun _ => ?_
  · -- `impl` and bounds
    refine meets_word.bind fun word _ start afterWord htrees hword => ?_
    obtain ⟨rfl, rfl⟩ := hword
    have hbounds : Meets (boundList g allowPlus) region afterWord _ := .of_advances
    refine hbounds.recorded.bind fun taken written r after hafter h => ?_
    obtain ⟨rfl, hends, hne⟩ := h
    refine .ite (fun _ => .pure ?_) fun _ => .failAt fun _ => ?_
    · exact ⟨(SameEnds.refl _).append (hends.append (.refl [])), List.cons_ne_nil _ _⟩
    · rw [hends.spanOf_eq]
      exact place_through_word (.ident "impl" start) [] htrees hregion ⟨after, hafter.symm⟩ hne
  refine .ite (fun _ => .of_advances) fun _ => ?_
  refine .ite (fun _ => ?_) fun _ => .of_advances
  -- bounds that start with a lifetime
  have hbounds : Meets (objectBounds g true (spanOf (trees.take 1))) region trees _ :=
    meets_objectBounds fun taken htaken hne _ => place_through_head hregion htaken hne
  exact hbounds.bind_pure fun taken written bounds _ _ h => h

/-- A type is written with the tokens that stand for the trees it takes. -/
theorem meets_typeExpr {allowPlus : Bool} {region trees : Tokens} :
    Meets (typeExpr g allowPlus) region trees
      fun taken written t => (SameEnds written taken ∧ taken ≠ []) ∧ t.tokens = written := by
  have hshape : Meets (typeShape g allowPlus) region trees _ := .of_advances
  refine (hshape.and_yields yields_typeShape).recorded.bind_pure fun taken written r _ _ h => ?_
  obtain ⟨rfl, hends, hkeeps⟩ := h
  exact ⟨hends, hkeeps r.1⟩

/-! ### Patterns -/

instance advances_literalToken : Advances literalToken := by
  refine ⟨fun region trees => .peek_bind (.ite (fun hliteral => ?_) fun _ => .expected)⟩
  obtain ⟨tree, rest, rfl⟩ : ∃ tree rest, trees = tree :: rest := by
    cases trees with
    | nil => cases hliteral
    | cons tree rest => exact ⟨tree, rest, rfl⟩
  refine .peek_bind (.ite (fun _ => ?_) fun _ => ?_)
  · exact meets_skip.mono fun _ _ _ _ h => ⟨h.sameEnds, h.2 ▸ List.cons_ne_nil _ _⟩
  · exact meets_skip.mono fun _ _ _ _ h => ⟨h.sameEnds, h.2 ▸ List.cons_ne_nil _ _⟩

instance advances_rangeEnd : Advances (rangeEnd g) := by
  unfold rangeEnd
  infer_instance

instance located_rangeTail : Located (rangeTail g) := by
  unfold rangeTail
  dsimp only
  infer_instance

instance located_fieldPattern : Located (fieldPattern g) := by
  unfold fieldPattern
  infer_instance

instance advances_pathPattern : Advances (pathPattern g) := by
  unfold pathPattern
  infer_instance

instance advances_namePattern : Advances (namePattern g) := by
  unfold namePattern
  dsimp only
  infer_instance

instance advances_twoDots : Advances (punct "..") :=
  advances_punct (by decide)

instance advances_pattern : Advances (pattern g) := by
  refine ⟨fun region trees => .rest_bind ?_⟩
  refine .ite (fun _ => .of_advances) fun _ => ?_
  refine .ite (fun _ => .of_advances) fun _ => ?_
  refine .ite (fun _ => .of_advances) fun _ => ?_
  refine .ite (fun _ => .of_advances) fun _ => ?_
  refine .ite (fun _ => .of_advances) fun _ => ?_
  refine .ite (fun _ => .of_advances) fun _ => ?_
  refine .ite (fun _ => .of_advances) fun _ => ?_
  refine .ite (fun _ => .of_advances) fun _ => ?_
  refine .ite (fun hdots => ?_) fun _ => .of_advances
  -- the dots are there, so that even those that are skipped are a tree at least
  obtain ⟨tree, rest, rfl⟩ : ∃ tree rest, trees = tree :: rest := by
    cases trees with
    | nil => cases hdots
    | cons tree rest => exact ⟨tree, rest, rfl⟩
  extract_lets tail
  have htail : ∀ r, Located (tail r) := fun r => by infer_instance
  exact .ite (fun _ => .skip_bind htail) fun _ => .of_advances

instance located_alternatives : Located (alternatives g) := by
  unfold alternatives
  infer_instance

end

end Parser

end RestClient.Code
