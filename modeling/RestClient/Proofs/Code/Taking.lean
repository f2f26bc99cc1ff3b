import RestClient.Code.Attribute
import RestClient.Code.ExprParser
import RestClient.Proofs.Code.Parsing

/-!
# What parsers take

A parser that is given the trees of a construct takes all of them and no other. A triple says this
of every state in which the trees are next: it goes through binds and recordings, and a list with
commas is taken where each of its items is.

What ends a construct has to be looked at too: an operator or a trailer would go on with it. Nothing
goes on at the end of a list or at a comma.

## Main definitions

- `Parser.Takes` — the trees that a parser takes, and its value
- `Parser.Separated` — lists with commas between their items
- `Parser.Breaks` — the end of a list, or a comma
- `Parser.IsOperand` — tokens that are expressions by themselves

## Main results

- `Takes.iterate_separated` — lists are taken item by item
- `Meets.commaList_separated` — what is taken for a list is one
- `takes_expr` — values and names are taken as expressions
- `takes_metaItem_path`, `takes_metaItem_operand` — attributes with a single name
-/

namespace RestClient.Code.Parser

variable {α β σ : Type}

/-- Where `taken` stands before `after`, the parser takes it, writes it as it is, and answers with
`a`. -/
def Takes (p : Parser α) (taken after : Tokens) (a : α) : Prop :=
  ∀ before : Cursor, before.rest = taken ++ after →
    p.run before = .ok (a, { before with
      rest := after, written := taken.reverse ++ before.written })

namespace Takes

variable {p : Parser α} {taken after : Tokens} {a : α} {b : β}

theorem pure (a : α) (after : Tokens) : Takes (pure a) [] after a := by
  rintro ⟨rest, scope, leftover, written⟩ rfl
  rfl

theorem bind {f : α → Parser β} {more : Tokens} (hp : Takes p taken (more ++ after) a)
    (hf : Takes (f a) more after b) : Takes (p >>= f) (taken ++ more) after b := by
  intro before hbefore
  have hrun : (p >>= f).run before = p.run before >>= fun r => (f r.1).run r.2 := rfl
  rw [hrun, hp before (by rw [hbefore, List.append_assoc])]
  refine (hf _ rfl).trans ?_
  rw [List.reverse_append, List.append_assoc]

/-- A last step that takes nothing. -/
theorem bind_last {f : α → Parser β} (hp : Takes p taken after a) (hf : Takes (f a) [] after b) :
    Takes (p >>= f) taken after b := by
  have h : Takes (p >>= f) (taken ++ []) after b := bind hp hf
  rwa [List.append_nil] at h

/-- A first step that leaves the state as it is. -/
theorem look {q : Parser β} {c : β} {f : β → Parser α}
    (hq : ∀ before : Cursor, before.rest = taken ++ after → q.run before = .ok (c, before))
    (hf : Takes (f c) taken after a) : Takes (q >>= f) taken after a := by
  intro before hbefore
  have hrun : (q >>= f).run before = q.run before >>= fun r => (f r.1).run r.2 := rfl
  rw [hrun, hq before hbefore]
  exact hf before hbefore

theorem rest_bind {f : Tokens → Parser α} (h : Takes (f (taken ++ after)) taken after a) :
    Takes (rest >>= f) taken after a :=
  .look (fun _ hbefore => by rw [← hbefore]; rfl) h

theorem atEnd_bind {f : Bool → Parser α}
    (h : Takes (f (taken ++ after).isEmpty) taken after a) : Takes (atEnd >>= f) taken after a :=
  .look (fun _ hbefore => by rw [← hbefore]; rfl) h

theorem peek_bind {test : Tokens → Bool} {f : Bool → Parser α}
    (h : Takes (f (test (taken ++ after))) taken after a) :
    Takes (peek test >>= f) taken after a :=
  .look (fun _ hbefore => by rw [← hbefore]; rfl) h

theorem skip {n : Nat} (hn : n = taken.length) :
    Takes (discard (take n)) taken after PUnit.unit := by
  rintro ⟨rest, scope, leftover, written⟩ rfl
  subst hn
  show Except.ok _ = Except.ok _
  simp

theorem discard (h : Takes p taken after a) : Takes (discard p) taken after PUnit.unit := by
  intro before hbefore
  have hrun : (Functor.discard p).run before = p.run before >>= fun r => .ok (PUnit.unit, r.2) :=
    rfl
  rw [hrun, h before hbefore]
  rfl

theorem recorded (h : Takes p taken after a) : Takes (recorded p) taken after (taken, a) := by
  intro before hbefore
  have hrun : (Parser.recorded p).run before =
      p.run { before with written := [] } >>= fun r => .ok ((r.2.written.reverse, r.1),
        { r.2 with written := r.2.written ++ before.written }) := rfl
  rw [hrun, h { before with written := [] } hbefore]
  show Except.ok _ = Except.ok _
  simp

/-- A parser that is tried on the state, which is then the one behind it. -/
theorem attempt {f : Cursor → Parser β} {next : Parser β} {more : Tokens}
    (hp : Takes p taken (more ++ after) a)
    (hf : ∀ before c, p.run before = .ok (a, c) → f before = do set c; next)
    (hnext : Takes next more after b) : Takes (do f (← get)) (taken ++ more) after b := by
  intro before hbefore
  rw [List.append_assoc] at hbefore
  have hrun := hp before hbefore
  show (f before).run before = _
  rw [hf before _ hrun, List.reverse_append, List.append_assoc]
  exact hnext _ rfl

theorem attempt_last {f : Cursor → Parser β} {next : Parser β} (hp : Takes p taken after a)
    (hf : ∀ before c, p.run before = .ok (a, c) → f before = do set c; next)
    (hnext : Takes next [] after b) : Takes (do f (← get)) taken after b := by
  have h : Takes (do f (← get)) (taken ++ []) after b := attempt hp hf hnext
  rwa [List.append_nil] at h

/-- A parser that takes all of some trees has the value that it answers with. -/
theorem runAll (h : Takes p taken [] a) (scope : Span) : runAll p taken scope = .ok a := by
  have hrun := h (start taken scope) (List.append_nil taken).symm
  unfold Parser.runAll
  rw [hrun]
  rfl

theorem ite_pos {c : Prop} [Decidable c] {q : Parser α} (hc : c) (h : Takes p taken after a) :
    Takes (if c then p else q) taken after a := by
  rwa [if_pos hc]

theorem ite_neg {c : Prop} [Decidable c] {q : Parser α} (hc : ¬ c) (h : Takes q taken after a) :
    Takes (if c then p else q) taken after a := by
  rwa [if_neg hc]

/-- An iteration whose first step answers. -/
theorem iterate_once {step : σ → Parser (σ ⊕ β)} {s : σ} (h : Takes (step s) taken after (.inr b)) :
    Takes (iterate step s) taken after b :=
  rest_bind (bind_last h (pure b after))

end Takes

/-! ### Lists with commas -/

/-- Items with commas between them, each spelled by some trees; the last may have a comma too. -/
inductive Separated (Spells : Tokens → α → Prop) : Tokens → List α → Prop
  | nil : Separated Spells [] []
  | last {front : Tokens} {a : α} (h : Spells front a) : Separated Spells front [a]
  | cons {front rest : Tokens} {a : α} {own : List α} (joint : Bool) (span : Span)
      (h : Spells front a) (hrest : Separated Spells rest own) :
      Separated Spells (front ++ .punct ',' joint span :: rest) (a :: own)

section

variable {Spells : Tokens → α → Prop} {trees : Tokens} {own : List α}

/-- There is a comma between any two items. -/
theorem Separated.length_le (h : Separated Spells trees own) : own.length ≤ trees.length + 1 := by
  induction h with
  | nil => exact Nat.zero_le _
  | last h => simp
  | cons joint span h hrest ih =>
    simp only [List.length_cons, List.length_append]
    omega

/-- A step of an iteration reads a list: it answers at the end and behind a last item, and goes on
behind a comma. -/
structure ReadsItems (Spells : Tokens → α → Prop) (step : List α → Parser (List α ⊕ β))
    (answer : List α → β) : Prop where
  atEnd : ∀ done, Takes (step done) [] [] (.inr (answer done.reverse))
  last : ∀ done front a, Spells front a →
    Takes (step done) front [] (.inr (answer (a :: done).reverse))
  more : ∀ done front a joint span after, Spells front a →
    Takes (step done) (front ++ [.punct ',' joint span]) after (.inl (a :: done))

theorem Takes.iterateAtMost_separated {step : List α → Parser (List α ⊕ β)} {answer : List α → β}
    (hstep : ReadsItems Spells step answer) (h : Separated Spells trees own) :
    ∀ n done, own.length < n →
      Takes (iterateAtMost step n done) trees [] (answer (done.reverse ++ own)) := by
  induction h with
  | nil =>
    intro n done hn
    obtain ⟨n, rfl⟩ := Nat.exists_eq_succ_of_ne_zero (Nat.ne_zero_of_lt hn)
    rw [List.append_nil]
    exact bind_last (hstep.atEnd done) (.pure _ _)
  | @last front a h =>
    intro n done hn
    obtain ⟨n, rfl⟩ := Nat.exists_eq_succ_of_ne_zero (Nat.ne_zero_of_lt hn)
    rw [← List.reverse_cons]
    exact bind_last (hstep.last done front a h) (.pure _ _)
  | @cons front rest a own joint span h hrest ih =>
    intro n done hn
    obtain ⟨n, rfl⟩ := Nat.exists_eq_succ_of_ne_zero (Nat.ne_zero_of_lt hn)
    have hmore := ih n (a :: done) (Nat.lt_of_succ_lt_succ hn)
    rw [List.reverse_cons, List.append_assoc, List.singleton_append] at hmore
    have htaken : Takes (iterateAtMost step (n + 1) done)
        ((front ++ [.punct ',' joint span]) ++ rest) [] (answer (done.reverse ++ a :: own)) :=
      bind (hstep.more done front a joint span (rest ++ []) h) hmore
    rwa [List.append_assoc, List.singleton_append] at htaken

/-- An iteration whose steps read a list reads all of it. -/
theorem Takes.iterate_separated {step : List α → Parser (List α ⊕ β)} (answer : List α → β)
    (hstep : ReadsItems Spells step answer) (h : Separated Spells trees own) :
    Takes (iterate step []) trees [] (answer own) := by
  refine rest_bind ?_
  have hlength : own.length < (trees ++ []).length + 2 := by
    rw [List.append_nil]
    exact Nat.lt_succ_of_le h.length_le
  exact iterateAtMost_separated hstep h _ [] hlength

theorem takes_comma (joint : Bool) (span : Span) (after : Tokens) :
    Takes (punct ",") [.punct ',' joint span] after PUnit.unit :=
  .peek_bind (.skip rfl)

/-- The end of a list, or a comma: nothing goes on there. -/
inductive Breaks : Tokens → Prop
  | nil : Breaks []
  | comma (joint : Bool) (span : Span) (rest : Tokens) : Breaks (.punct ',' joint span :: rest)

theorem takes_commaList {item : Parser α}
    (hitem : ∀ front a after, Spells front a → Breaks after → front ≠ [] ∧ Takes item front after a)
    (h : Separated Spells trees own) : Takes (commaList item) trees [] own := by
  refine .iterate_separated id ⟨fun done => ?_, fun done front a h => ?_,
    fun done front a joint span after h => ?_⟩ h
  · exact .atEnd_bind (.pure _ _)
  · obtain ⟨hne, htakes⟩ := hitem front a [] h .nil
    refine .atEnd_bind (.ite_neg (by simpa using hne) ?_)
    exact htakes.bind_last (.atEnd_bind (.pure _ _))
  · obtain ⟨hne, htakes⟩ := hitem front a _ h (.comma joint span after)
    refine .atEnd_bind (.ite_neg (by simp) ?_)
    refine htakes.bind (.atEnd_bind ?_)
    exact (takes_comma joint span after).bind_last (.pure _ _)

theorem eq_comma_of_isPunct (h : isPunct "," trees = true) :
    ∃ joint span, trees.take 1 = [.punct ',' joint span] := by
  cases trees with
  | nil => cases h
  | cons tree rest =>
    cases tree with
    | punct c joint span =>
      obtain rfl : ',' = c := by simpa [isPunct, isPunctChars] using h
      exact ⟨joint, span, rfl⟩
    | _ => cases h

/-- What is taken for a list with commas is one. -/
theorem Meets.commaList_separated {item : Parser α} {region : Tokens}
    (hitem : ∀ trees, Meets item region trees fun taken _ a => Spells taken a) :
    Meets (Parser.commaList item) region trees fun taken _ all => Separated Spells taken all := by
  refine .collect id (K := fun taken _ own => Separated Spells taken own) fun done trees => ?_
  refine .atEnd_bind (.ite (fun _ => .pure ?_) fun _ => ?_)
  · exact ⟨[], (List.append_nil _).symm, .nil⟩
  · refine (hitem trees).bind fun taken _ a after _ ha => ?_
    refine .atEnd_bind (.ite (fun _ => .pure ?_) fun _ => ?_)
    · rw [List.append_nil]
      exact ⟨[a], List.reverse_cons, .last ha⟩
    · refine meets_punct.bind_pure fun comma _ _ _ _ hcomma => ⟨a, rfl, fun taken' _ own hown => ?_⟩
      obtain ⟨-, rfl, hfront⟩ := hcomma
      obtain ⟨joint, span, htake⟩ := eq_comma_of_isPunct hfront
      rw [show ",".length = 1 from rfl, htake, List.append_assoc]
      exact .cons joint span ha hown

end

/-- What the answering steps of an iteration leave behind, it leaves behind. -/
theorem iterate_leaves {step : σ → Parser (σ ⊕ β)} {P : Cursor → Prop}
    (hstep : ∀ s before b after, (step s).run before = .ok (.inr b, after) → P after)
    {s : σ} {before after : Cursor} {b : β} (h : (iterate step s).run before = .ok (b, after)) :
    P after := by
  have hall : ∀ n s before, (iterateAtMost step n s).run before = .ok (b, after) → P after := by
    intro n
    induction n with
    | zero =>
      intro s before h
      exact (Yields.fail (P := fun _ => False) before b after h).elim
    | succ n ih =>
      intro s before h
      obtain ⟨r, middle, hr, hrest⟩ := run_bind_eq_ok h
      cases r with
      | inl more => exact ih more middle hrest
      | inr answer =>
        obtain ⟨-, rfl⟩ := Prod.mk.inj (Except.ok.inj hrest)
        exact hstep s before answer middle hr
  exact hall _ s before h

/-- A list with commas goes on to the end. -/
theorem rest_eq_nil_of_commaList {item : Parser α} {before after : Cursor} {all : List α}
    (h : (commaList item).run before = .ok (all, after)) : after.rest = [] := by
  refine iterate_leaves (P := fun c => c.rest = []) (fun done before b after hrun => ?_) h
  obtain ⟨ends, middle, hends, hrun⟩ := run_bind_eq_ok hrun
  obtain ⟨rfl, rfl⟩ := Prod.mk.inj (Except.ok.inj hends)
  split at hrun
  · next hnone =>
    obtain ⟨-, rfl⟩ := Prod.mk.inj (Except.ok.inj hrun)
    exact List.isEmpty_iff.mp hnone
  · obtain ⟨x, behind, -, hrun⟩ := run_bind_eq_ok hrun
    obtain ⟨ends, middle, hends, hrun⟩ := run_bind_eq_ok hrun
    obtain ⟨rfl, rfl⟩ := Prod.mk.inj (Except.ok.inj hends)
    split at hrun
    · next hnone =>
      obtain ⟨-, rfl⟩ := Prod.mk.inj (Except.ok.inj hrun)
      exact List.isEmpty_iff.mp hnone
    · obtain ⟨_, _, -, hrun⟩ := run_bind_eq_ok hrun
      cases hrun

/-! ### Names -/

section

variable {after : Tokens} {name : String} {span : Span}

/-- A name that is no keyword is none of the keywords. -/
theorem isWord_eq_false {word : String} (hname : keywords.contains name = false)
    (hword : word ∈ keywords) : isWord word (.ident name span :: after) = false := by
  refine Bool.eq_false_iff.mpr fun h => ?_
  obtain rfl : name = word := by simpa [isWord, name?] using h
  rw [List.contains_iff_mem.mpr hword] at hname
  cases hname

theorem isOneOf_eq_false {ws : List String} (hname : keywords.contains name = false)
    (hws : ∀ word ∈ ws, word ∈ keywords) : isOneOf ws (.ident name span :: after) = false :=
  List.any_eq_false.mpr fun word hword => by
    rw [isWord_eq_false hname (hws word hword)]
    exact Bool.false_ne_true

theorem isIdent_eq_true (hname : keywords.contains name = false) :
    isIdent (.ident name span :: after) = true := by
  show (!keywords.contains name) = true
  rw [hname]
  rfl

theorem takes_punct?_none {text : String} (h : isPunct text after = false) :
    Takes (punct? text) [] after false := by
  refine .peek_bind ?_
  rw [List.nil_append, h]
  exact .pure _ _

theorem takes_anyName (name : String) (span : Span) (after : Tokens) :
    Takes anyName [.ident name span] after (name, span) :=
  .rest_bind (.bind_last (.skip rfl) (.pure _ _))

theorem takes_ident (hname : keywords.contains name = false) :
    Takes ident [.ident name span] after (name, span) := by
  refine .rest_bind (.ite_neg ?_ (.bind_last (.skip rfl) (.pure _ _)))
  rw [hname]
  exact Bool.false_ne_true

/-- The path that is a single name. -/
def namePath (name : String) : PathExpr :=
  ⟨false, none, [⟨name, none, false⟩]⟩

theorem takes_modPath (hname : keywords.contains name = false)
    (hafter : isPunct "::" after = false) :
    Takes modPath [.ident name span] after (namePath name) := by
  have hglobal : Takes (punct? "::") [] ([.ident name span] ++ after) false :=
    takes_punct?_none rfl
  refine hglobal.bind (.bind_last (.iterate_once (.peek_bind ?_)) (.pure _ _))
  rw [List.singleton_append, isIdent_eq_true hname]
  exact (takes_anyName name span after).bind_last ((takes_punct?_none hafter).bind_last (.pure _ _))

theorem takes_pathSegment (g : Nested) (hname : keywords.contains name = false)
    (hafter : Breaks after) :
    Takes (pathSegment g true) [.ident name span] after ⟨name, none, false⟩ := by
  have hspecial : isOneOf ["super", "self", "crate", "try"] ([.ident name span] ++ after) = false :=
    isOneOf_eq_false hname (by decide)
  have hself : isWord "Self" ([.ident name span] ++ after) = false :=
    isWord_eq_false hname (by decide)
  refine .peek_bind ?_
  rw [hspecial]
  refine .peek_bind ?_
  rw [hself]
  refine .bind_last (takes_ident hname) (.rest_bind ?_)
  cases hafter <;> exact .pure _ _

theorem takes_qualifiedPath (g : Nested) (hname : keywords.contains name = false)
    (hafter : Breaks after) :
    Takes (qualifiedPath g true) [.ident name span] after (namePath name) := by
  have hself : Takes (punct? "<") [] ([.ident name span] ++ after) false := takes_punct?_none rfl
  have hglobal : Takes (punct? "::") [] ([.ident name span] ++ after) false := takes_punct?_none rfl
  refine hself.bind (hglobal.bind ((takes_pathSegment g hname hafter).bind_last ?_))
  refine .bind_last (.iterate_once (.rest_bind ?_)) (.pure _ _)
  cases hafter <;> exact .pure _ _

theorem takes_pathOrMore (g : Nested) (allowStruct : Bool) (hname : keywords.contains name = false)
    (hafter : Breaks after) :
    Takes (pathOrMore g allowStruct) [.ident name span] after (.path (namePath name)) := by
  refine (takes_qualifiedPath g hname hafter).bind_last (.rest_bind ?_)
  cases hafter <;> cases allowStruct <;> exact .pure _ _

/-- A name is an expression: it is tried as one when all that starts with a keyword is ruled out. -/
theorem takes_atom_name (g : Nested) (allowStruct : Bool) (hname : keywords.contains name = false)
    (hafter : Breaks after) :
    Takes (atom g allowStruct) [.ident name span] after (.path (namePath name)) := by
  have hword (word : String) (h : word ∈ keywords) :
      isWord word ([.ident name span] ++ after) = false :=
    isWord_eq_false hname h
  have hliteral : isLiteral ([.ident name span] ++ after) = false := by
    have htrue := hword "true" (by decide)
    have hfalse := hword "false" (by decide)
    simpa [isLiteral, isWord, name?] using And.intro htrue hfalse
  have hasync : startsAsyncBlock ([.ident name span] ++ after) = false := by
    unfold startsAsyncBlock
    rw [hword "async" (by decide), Bool.false_and]
  have hclosure : startsClosure ([.ident name span] ++ after) = false := by
    have hbar : isPunct "|" ([.ident name span] ++ after) = false := rfl
    unfold startsClosure
    simp only [hbar, hword "move" (by decide), hword "for" (by decide),
      hword "const" (by decide), hword "static" (by decide),
      hword "async" (by decide), Bool.false_and, Bool.or_self]
  refine .rest_bind (.ite_neg ?_ (.ite_neg ?_ (.ite_neg ?_ (.ite_neg ?_ (.ite_pos ?_ ?_)))))
  · rw [hliteral]
    exact Bool.false_ne_true
  · rw [hasync]
    exact Bool.false_ne_true
  · rw [hword "try" (by decide), Bool.false_and]
    exact Bool.false_ne_true
  · rw [hclosure]
    exact Bool.false_ne_true
  · rw [List.singleton_append, isIdent_eq_true hname]
    rfl
  · exact takes_pathOrMore g allowStruct hname hafter

end

/-! ### Attributes with a single name -/

section

variable {after : Tokens} {tree : TokenTree} {form : ExprForm}

/-- A token that is the value of an attribute by itself. -/
inductive IsValue : TokenTree → ExprForm → Prop
  | string {text : String} {value suffix : List Char} (span : Span)
      (h : stringValue? text.toList = some (value, suffix)) :
      IsValue (.literal text span) (.string (String.ofList value))
  | bool (flag : Bool) (span : Span) :
      IsValue (.ident (if flag then "true" else "false") span) (.bool flag)

/-- A token that is an expression by itself: a value, or a name. -/
inductive IsOperand : TokenTree → ExprForm → Prop
  | value {tree : TokenTree} {form : ExprForm} (h : IsValue tree form) : IsOperand tree form
  | name {name : String} (span : Span) (h : keywords.contains name = false) :
      IsOperand (.ident name span) (.path (namePath name))

theorem IsValue.isLiteral (h : IsValue tree form) : isLiteral (tree :: after) = true := by
  cases h with
  | string span h => rfl
  | bool flag span => cases flag <;> rfl

/-- The token is a word or a literal, so no mark starts with it. -/
theorem IsOperand.cases_tree (h : IsOperand tree form) :
    (∃ text span, tree = .literal text span) ∨ ∃ text span, tree = .ident text span := by
  cases h with
  | value h =>
    cases h with
    | string span h => exact .inl ⟨_, span, rfl⟩
    | bool flag span => exact .inr ⟨_, span, rfl⟩
  | name span h => exact .inr ⟨_, span, rfl⟩

theorem IsOperand.isRange_eq_false (h : IsOperand tree form) : isRange form = false := by
  cases h with
  | value h => cases h <;> rfl
  | name span h => rfl

theorem takes_literalExpr (h : IsValue tree form) : Takes literalExpr [tree] after form := by
  refine .rest_bind ?_
  cases h with
  | string span h =>
    refine .bind_last (.skip rfl) ?_
    rw [h]
    exact .pure _ _
  | bool flag span =>
    refine .bind_last (.skip rfl) ?_
    cases flag <;> exact .pure _ _

theorem takes_outerAttributes_none (g : Nested) (h : isPunct "#" after = false) :
    Takes (outerAttributes g) [] after [] := by
  refine .iterate_once (.peek_bind ?_)
  rw [List.nil_append, h]
  exact .pure _ _

theorem takes_trailers_none (g : Nested) (hafter : Breaks after) :
    Takes (trailers g form) [] after form := by
  refine .iterate_once (.rest_bind ?_)
  cases hafter with
  | nil => exact .pure _ _
  | comma joint span rest => exact .pure _ _

theorem takes_atom (g : Nested) (allowStruct : Bool) (h : IsOperand tree form)
    (hafter : Breaks after) : Takes (atom g allowStruct) [tree] after form := by
  cases h with
  | value h => exact .rest_bind (.ite_pos h.isLiteral (takes_literalExpr h))
  | name span h => exact takes_atom_name g allowStruct h hafter

theorem takes_unary (g : Nested) (allowStruct : Bool) (h : IsOperand tree form)
    (hafter : Breaks after) : Takes (unary g allowStruct) [tree] after ⟨form, [tree]⟩ := by
  have hoperand : Takes (do trailers g (← atom g allowStruct)) [tree] after form :=
    (takes_atom g allowStruct h hafter).bind_last (takes_trailers_none g hafter)
  have hattributes : Takes (discard (outerAttributes g)) [] ([tree] ++ after) PUnit.unit := by
    refine (takes_outerAttributes_none g ?_).discard
    rcases h.cases_tree with ⟨text, span, rfl⟩ | ⟨text, span, rfl⟩ <;> rfl
  refine .bind_last (.recorded (hattributes.bind (.rest_bind ?_))) (.pure _ _)
  rcases h.cases_tree with ⟨text, span, rfl⟩ | ⟨text, span, rfl⟩ <;> exact hoperand

theorem takes_climb_none (g : Nested) (allowStruct : Bool) {operand : Expr}
    (hoperand : isRange operand.form = false) (hafter : Breaks after) :
    Takes (climb g allowStruct .least operand) [] after operand := by
  refine .iterate_once (.rest_bind ?_)
  rw [hoperand]
  cases hafter <;> exact .pure _ _

theorem takes_expr (n : Nat) (allowStruct : Bool) (h : IsOperand tree form)
    (hafter : Breaks after) :
    Takes ((Nested.ofDepth (n + 2)).expr allowStruct) [tree] after ⟨form, [tree]⟩ := by
  have hunary := takes_unary (.ofDepth n) allowStruct h hafter
  exact hunary.bind_last (takes_climb_none (.ofDepth n) allowStruct h.isRange_eq_false hafter)

/-- There is always depth enough for an expression without nested ones. -/
theorem exists_ofDepth (trees : Tokens) : ∃ n, Nested.ofTokens trees = .ofDepth (n + 2) :=
  ⟨_, rfl⟩

theorem takes_metaValue (n : Nat) (h : IsOperand tree form) (hafter : Breaks after) :
    Takes (metaValue (.ofDepth (n + 2))) [tree] after ⟨form, [tree]⟩ := by
  have hhash : isPunct "#" ([tree] ++ after) = false := by
    rcases h.cases_tree with ⟨text, span, rfl⟩ | ⟨text, span, rfl⟩ <;> rfl
  refine .peek_bind ?_
  rw [hhash]
  exact takes_expr n true h hafter

/-- An attribute that starts with a single name. -/
theorem takes_metaItem {g : Nested} {name : String} {span : Span} {more : Tokens} {form : MetaForm}
    (hname : keywords.contains name = false) (hmore : isPunct "::" (more ++ after) = false)
    (hform : Takes (do
      match ← rest with
      | .group d trees span :: _ =>
        discard (take 1)
        return (namePath name, MetaForm.list d trees span)
      | trees =>
        if isPunct "=" trees && !isPunct "==" trees then
          punct "="
          let value ← metaValue g
          return (namePath name, MetaForm.nameValue value)
        else return (namePath name, MetaForm.path)) more after (namePath name, form)) :
    Takes (metaItem g) (.ident name span :: more) after
      ⟨namePath name, form, .ident name span :: more⟩ := by
  have hplain : isWord "unsafe" (.ident name span :: more ++ after) = false :=
    isWord_eq_false hname (by decide)
  refine .bind_last (a := (_, namePath name, form)) (.recorded (.peek_bind ?_)) (.pure _ _)
  extract_lets tail
  rw [hplain]
  exact .bind (takes_modPath hname hmore) hform

theorem takes_metaItem_path (g : Nested) {name : String} {span : Span}
    (hname : keywords.contains name = false) (hafter : Breaks after) :
    Takes (metaItem g) [.ident name span] after
      ⟨namePath name, .path, [.ident name span]⟩ := by
  refine takes_metaItem hname ?_ (.rest_bind ?_)
  · cases hafter <;> rfl
  · cases hafter <;> exact .pure _ _

theorem takes_metaItem_operand (n : Nat) {name : String} {span place : Span} {joint : Bool}
    (hname : keywords.contains name = false) (h : IsOperand tree form) (hafter : Breaks after) :
    Takes (metaItem (.ofDepth (n + 2))) [.ident name span, .punct '=' joint place, tree] after
      ⟨namePath name, .nameValue ⟨form, [tree]⟩,
        [.ident name span, .punct '=' joint place, tree]⟩ := by
  have hpunct : Takes (punct "=") [.punct '=' joint place] ([tree] ++ after) PUnit.unit :=
    .peek_bind (.skip rfl)
  refine takes_metaItem hname rfl (.rest_bind (.ite_pos ?_ ?_))
  · rcases h.cases_tree with ⟨text, span, rfl⟩ | ⟨text, span, rfl⟩ <;> cases joint <;> rfl
  · exact hpunct.bind ((takes_metaValue n h hafter).bind_last (.pure _ _))

theorem takes_metaItem_value (n : Nat) {name : String} {span place : Span} {joint : Bool}
    (hname : keywords.contains name = false) (h : IsValue tree form) (hafter : Breaks after) :
    Takes (metaItem (.ofDepth (n + 2))) [.ident name span, .punct '=' joint place, tree] after
      ⟨namePath name, .nameValue ⟨form, [tree]⟩,
        [.ident name span, .punct '=' joint place, tree]⟩ :=
  takes_metaItem_operand n hname (.value h) hafter

end

end RestClient.Code.Parser
