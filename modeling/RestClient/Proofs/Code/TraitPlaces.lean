import RestClient.Code.TraitParser
import RestClient.Proofs.Code.ExprPlaces

/-!
# Places in traits

Where the parts of a trait are that a complaint can be about: the places of signatures, inputs and
attributes are places in the trees that the trait was read from, and those of a method are places in
the trees from its first attribute to the end of its signature.

## Main definitions

- `Input.PlacedIn`, `Signature.PlacedIn` — inputs and signatures at places of a kind
- `Method.frontTokens`, `Method.Covers` — a method up to its signature, and the trees that it
  stretches over
- `TraitDecl.PlacedIn` — the places of a trait

## Main results

- `TraitDecl.placedIn_of_parse` — the places of a trait that has been read
-/

namespace RestClient.Code

/-! ### The parts of a trait -/

/-- A parameter and its parts are at places that satisfy `P`. -/
structure TypedInput.PlacedIn (P : Span → Prop) (i : TypedInput) : Prop where
  span : P i.span
  pattern : P (spanOf i.pattern)
  name : P i.identSpan
  type : P i.type.span
  attributes : ∀ a ∈ i.attributes, a.PlacedIn P

/-- An input is at places that satisfy `P`. -/
def Input.PlacedIn (P : Span → Prop) : Input → Prop
  | .receiver r => P (Input.receiver r).span
  | .typed i => i.PlacedIn P

/-- A signature and its parts are at places that satisfy `P`, as far as they are there. -/
structure Signature.PlacedIn (P : Span → Prop) (s : Signature) : Prop where
  name : P s.nameSpan
  generics : s.generics ≠ [] → P (spanOf s.generics)
  inputs : ∀ input ∈ s.inputs, input.1.PlacedIn P
  async : ∀ place, s.asyncSpan = some place → P place
  output : ∀ t, s.output = some t → P t.span

/-- The tokens of a method from the first attribute before it to the end of its signature. -/
def Method.frontTokens (m : Method) : Tokens :=
  attributeTokens (m.attributes.filter fun a => !a.isInner) ++ m.signature.tokens

/-- The trees that a method stretches over: `front` up to the end of its signature, and `inside` for
its body, if it has one. -/
structure Method.Covers (m : Method) (front inside : Tokens) : Prop where
  ends : SameEnds m.frontTokens front
  signature : m.signature.PlacedIn (Place front)
  attributes : ∀ a ∈ m.attributes, a.PlacedIn (Place (if a.isInner then inside else front))
  body : m.body = if inside.isEmpty then none else some (spanOf inside)

/-- The item is among some trees. -/
def TraitItem.PlacedIn (trees : Tokens) : TraitItem → Prop
  | .method m => ∃ front inside, m.Covers front inside ∧ front.Sublist trees ∧ inside.Sublist trees
  | .other tokens => Place trees (spanOf tokens)

/-- The parts of a trait are at places of some trees. -/
structure TraitDecl.PlacedIn (trees : Tokens) (t : TraitDecl) : Prop where
  generics : t.generics ≠ [] → Place trees (spanOf t.generics)
  supertraits : t.supertraits ≠ [] → Place trees (spanOf t.supertraits)
  items : ∃ d inner span, .group d inner span ∈ trees ∧ ∀ item ∈ t.items, item.PlacedIn inner

theorem TypedInput.PlacedIn.mono {P P' : Span → Prop} {i : TypedInput} (h : i.PlacedIn P)
    (hP : ∀ s, P s → P' s) : i.PlacedIn P' :=
  ⟨hP _ h.span, hP _ h.pattern, hP _ h.name, hP _ h.type, fun a ha => (h.attributes a ha).mono hP⟩

theorem Input.PlacedIn.mono {P P' : Span → Prop} {i : Input} (h : i.PlacedIn P)
    (hP : ∀ s, P s → P' s) : i.PlacedIn P' := by
  cases i with
  | receiver r => exact hP _ h
  | typed i => exact TypedInput.PlacedIn.mono h hP

theorem Signature.PlacedIn.mono {P P' : Span → Prop} {s : Signature} (h : s.PlacedIn P)
    (hP : ∀ s, P s → P' s) : s.PlacedIn P' :=
  ⟨hP _ h.name, fun hne => hP _ (h.generics hne), fun i hi => (h.inputs i hi).mono hP,
    fun place hplace => hP _ (h.async place hplace), fun t ht => hP _ (h.output t ht)⟩

theorem TraitItem.PlacedIn.mono {trees more : Tokens} {item : TraitItem}
    (h : item.PlacedIn trees) (hsub : trees.Sublist more) : item.PlacedIn more := by
  cases item with
  | method m =>
    obtain ⟨front, inside, hcovers, hfront, hinside⟩ := h
    exact ⟨front, inside, hcovers, hfront.trans hsub, hinside.trans hsub⟩
  | other tokens => exact Place.mono h hsub

namespace Parser

section

-- the answers of the search for instances are as long as the parsers
set_option synthInstance.maxSize 100000

variable {g : Nested} [hg : g.IsLocated] {region trees : Tokens}

/-! ### Generics and conditions -/

instance located_boundsUntil {stop : Tokens → Bool} : Located (boundsUntil g stop) := by
  unfold boundsUntil
  infer_instance

instance located_lifetimesUntil {stop : Tokens → Bool} : Located (lifetimesUntil stop) := by
  unfold lifetimesUntil
  infer_instance

instance located_genericParameter : Located (genericParameter g) := by
  unfold genericParameter
  dsimp only
  infer_instance

theorem meets_genericParameters : Meets (genericParameters g) region trees
    fun taken written tokens => SameEnds written taken ∧
      (tokens ≠ [] → Place taken (spanOf tokens)) := by
  refine .peek_bind (.ite (fun _ => ?_) fun _ => .pure ⟨.refl [], fun h => absurd rfl h⟩)
  refine (Meets.recorded .of_located).bind_pure fun taken written r after _ h => ?_
  obtain ⟨rfl, hends⟩ := h
  refine ⟨hends, fun hne => ?_⟩
  split at hne
  · next hany =>
    rw [if_pos hany]
    exact hends.place fun hnil => hne (hends.eq_nil_iff.mpr hnil)
  · exact absurd rfl hne

instance located_wherePredicate : Located (wherePredicate g) := by
  unfold wherePredicate
  infer_instance

theorem meets_whereClause : Meets (whereClause g) region trees
    fun taken written r => SameEnds written taken ∧ (r.2 = [] ∨ r.2 = written) := by
  refine .peek_bind (.ite (fun _ => ?_) fun _ => .pure ⟨.refl [], .inl rfl⟩)
  refine (Meets.recorded .of_located).bind_pure fun taken written r after _ h => ?_
  obtain ⟨rfl, hends⟩ := h
  refine ⟨hends, ?_⟩
  dsimp only
  split
  · exact .inr rfl
  · exact .inl rfl

instance located_genericParameters : Located (genericParameters g) :=
  ⟨fun _ _ => meets_genericParameters.mono fun _ _ _ _ => And.left⟩

instance located_whereClause : Located (whereClause g) :=
  ⟨fun _ _ => meets_whereClause.mono fun _ _ _ _ => And.left⟩

/-! ### Inputs -/

/-- Something is written that starts with trees as they have been taken, among them the word
`self`. -/
def StartsWithSelf (taken written : Tokens) : Prop :=
  ∃ front span, front <+: written ∧ front ⊆ taken ∧ .ident "self" span ∈ front

theorem StartsWithSelf.copied {copied taken written : Tokens} (h : StartsWithSelf taken written) :
    StartsWithSelf (copied ++ taken) (copied ++ written) := by
  obtain ⟨front, span, hprefix, hsubset, hself⟩ := h
  refine ⟨copied ++ front, span, (List.prefix_append_right_inj copied).mpr hprefix, ?_,
    List.mem_append_right copied hself⟩
  exact List.append_subset.mpr
    ⟨List.subset_append_left _ _, fun _ hmem => List.subset_append_right _ _ (hsubset hmem)⟩

/-- The place of the word `self`. -/
def selfWord? : TokenTree → Option Span
  | .ident "self" span => some span
  | _ => none

theorem selfSpan_eq (r : Receiver) : selfSpan r = (r.tokens.findSome? selfWord?).getD .nowhere :=
  rfl

/-- The word `self` of a receiver is the first one in its tokens. -/
theorem StartsWithSelf.place {taken : Tokens} {r : Receiver} (h : StartsWithSelf taken r.tokens) :
    Place taken (selfSpan r) := by
  obtain ⟨front, span, ⟨rest, hrest⟩, hsubset, hself⟩ := h
  rw [selfSpan_eq, ← hrest, List.findSome?_append]
  cases hfound : front.findSome? selfWord? with
  | none =>
    have hnone := List.findSome?_eq_none_iff.mp hfound _ hself
    cases hnone
  | some found =>
    obtain ⟨tree, htree, hspan⟩ := List.exists_of_findSome?_eq_some hfound
    unfold selfWord? at hspan
    split at hspan
    · next place =>
      obtain rfl := Option.some.inj hspan
      exact .tree (hsubset htree)
    · cases hspan

theorem meets_receiver : Meets (receiver g) region trees
    fun taken written r => (SameEnds written taken ∧ taken ≠ []) ∧ r.tokens = written ∧
      Place taken (selfSpan r) := by
  refine Meets.bind (Meets.recorded (Q := fun taken written _ =>
    (SameEnds written taken ∧ taken ≠ []) ∧ StartsWithSelf taken written) ?_) ?_
  · refine meets_punct?.bind fun _ mark reference afterMark _ ⟨hmark, _⟩ => ?_
    obtain rfl := hmark
    extract_lets afterLifetime
    -- whatever stands in front of the word is written as it is taken
    have hself : ∀ trees, Meets (afterLifetime ()) region trees fun taken written _ =>
        (SameEnds written taken ∧ taken ≠ []) ∧ StartsWithSelf taken written := by
      intro trees
      refine meets_word?.bind fun _ mutable _ afterMut _ ⟨hmut, _⟩ => ?_
      obtain rfl := hmut
      refine Meets.bind meets_word.discard fun word _ _ afterSelf _ hword => ?_
      obtain ⟨span, rfl, rfl⟩ := hword
      refine Meets.of_located.mono fun taken written _ _ hends => ⟨?_, ?_⟩
      · exact (SameEnds.refl mutable).append_of_right_ne_nil
          (SameEnds.append_of_left_ne_nil ⟨.refl _, List.cons_ne_nil _ _⟩ hends)
      · exact StartsWithSelf.copied ⟨[.ident "self" span], span, List.prefix_append _ _,
          List.subset_append_left _ _, List.mem_singleton_self _⟩
    have hcopied : ∀ copied taken written : Tokens,
        (SameEnds written taken ∧ taken ≠ []) ∧ StartsWithSelf taken written →
          (SameEnds (copied ++ written) (copied ++ taken) ∧ copied ++ taken ≠ []) ∧
            StartsWithSelf (copied ++ taken) (copied ++ written) :=
      fun copied _ _ h => ⟨(SameEnds.refl copied).append_of_right_ne_nil h.1, h.2.copied⟩
    refine .ite (fun _ => ?_) fun _ => (hself afterMark).mono fun _ _ _ _ h => hcopied mark _ _ h
    refine meets_lifetime?.bind fun _ life _ afterLife _ ⟨hlifetime, _⟩ => ?_
    obtain rfl := hlifetime
    exact (hself afterLife).mono fun _ _ _ _ h => hcopied mark _ _ (hcopied life _ _ h)
  · intro taken written r after _ h
    obtain ⟨rfl, hends, hself⟩ := h
    refine .pure ?_
    rw [List.append_nil, List.append_nil]
    exact ⟨hends, rfl, StartsWithSelf.place hself⟩

/-- An input without its attributes stretches over the trees, and its parts are among them. -/
structure Bare (taken : Tokens) (attributes : List Attribute) (i : Input) : Prop where
  attributes : i.attributes = attributes
  ends : SameEnds i.bareTokens taken
  ne_nil : taken ≠ []
  parts : match i with
    | .receiver r => Place taken (selfSpan r)
    | .typed p => Place taken (spanOf p.pattern) ∧ Place taken p.identSpan ∧ Place taken p.type.span

theorem Bare.placedIn {taken taken' written : Tokens} {attributes : List Attribute} {i : Input}
    (hattributes : Attributed false taken written attributes) (h : Bare taken' attributes i) :
    i.PlacedIn (Place (taken ++ taken')) := by
  obtain rfl := h.attributes
  obtain ⟨hends', rfl, hplaced⟩ := hattributes
  have hspan : Place (taken ++ taken') i.span :=
    (hends'.append h.ends).place (List.append_ne_nil_of_right_ne_nil taken h.ne_nil)
  cases i with
  | receiver r => exact hspan
  | typed p =>
    obtain ⟨hpattern, hname, htype⟩ := h.parts
    exact ⟨hspan, hpattern.right, hname.right, htype.right, fun a ha =>
      (hplaced a ha).1.mono fun s hs => hs.left⟩

theorem meets_inputAfter {attributes : List Attribute} :
    Meets (inputAfter g attributes) region trees fun taken written found =>
      (SameEnds written taken ∧ taken ≠ []) ∧
        ∀ i, found = .input i → Bare taken attributes i := by
  refine .ahead?_bind (k := fun r => return .input (.receiver { r with attributes := attributes }))
    (fun _ _ => rfl) ?_ ?_
  · refine meets_receiver.bind_pure fun taken written r after _ h => ?_
    obtain ⟨⟨hends, hne⟩, htokens, hself⟩ := h
    refine ⟨⟨hends, hne⟩, fun i hi => ?_⟩
    cases hi
    exact ⟨rfl, htokens ▸ hends, hne, hself⟩
  · refine .rest_bind (.ite (fun hfront => ?_) fun _ => ?_)
    · -- a type without a pattern, which starts at the name that stands for both
      refine (hg.type true region trees).bind_pure fun taken written type after htrees h => ?_
      obtain ⟨⟨hends, hne⟩, htokens⟩ := h
      refine ⟨⟨hends, hne⟩, fun i hi => ?_⟩
      cases hi
      have hplace : spanOf (trees.take 1) = spanOf (taken.take 1) := by
        obtain ⟨first, rest, rfl⟩ := List.exists_cons_of_ne_nil hne
        rw [htrees]
        rfl
      have hfirst : Place taken (spanOf (trees.take 1)) :=
        hplace ▸ (SameEnds.refl taken).place_first hne
      refine ⟨rfl, ?_, hne, hfirst, hfirst, ?_⟩
      · obtain ⟨first, rest, rfl⟩ := List.exists_cons_of_ne_nil hne
        have htype : type.tokens ≠ [] := by
          rw [htokens]
          exact hends.ne_nil hne
        refine ⟨by rw [hplace]; rfl, ?_⟩
        show (([_] ++ [_]) ++ type.tokens).getLast?.map _ = _
        rw [List.getLast?_append_of_ne_nil _ htype, htokens, hends.2]
      · show Place taken (spanOf type.tokens)
        rw [htokens]
        exact hends.place hne
    · -- a pattern with its type, or with the dots of a variadic rest
      have hpattern := Meets.recorded ((advances_pattern (g := g)).meets region trees)
      refine hpattern.bind fun taken written r afterPattern _ h => ?_
      obtain ⟨rfl, hends, hne⟩ := h
      have hcolon := Meets.recorded (@meets_punct region afterPattern ":")
      refine hcolon.bind fun taken' written' r' afterColon _ h => ?_
      obtain ⟨rfl, hcolon'⟩ := h
      refine meets_punct?.bind fun taken'' written'' dots afterDots _ hdots => ?_
      have hne' : ∀ more : Tokens, taken ++ more ≠ [] := List.append_ne_nil_of_left_ne_nil hne
      refine .ite (fun _ => .pure ?_) fun hnone => ?_
      · exact ⟨⟨hends.append (hcolon'.sameEnds.append (hdots.sameEnds.append (.refl []))),
          hne' _⟩, fun i hi => nomatch hi⟩
      · obtain ⟨rfl, hfound, htaken⟩ := hdots
        rw [← hfound, if_neg hnone] at htaken
        obtain rfl := htaken
        refine (hg.type true region afterDots).bind fun taken'' written'' type after _ h => .pure ?_
        obtain ⟨⟨hends'', hne''⟩, htokens⟩ := h
        have hbare : SameEnds (r.1 ++ r'.1 ++ type.tokens) (taken ++ (taken' ++ taken'')) := by
          rw [List.append_assoc, htokens]
          exact hends.append (hcolon'.sameEnds.append hends'')
        rw [List.nil_append, List.nil_append, List.append_nil, List.append_nil]
        refine ⟨⟨hends.append (hcolon'.sameEnds.append hends''), hne' _⟩, fun i hi => ?_⟩
        cases hi
        refine ⟨rfl, hbare, hne' _, (hends.place hne).left, (hends.place_last hne).left, ?_⟩
        show Place _ (spanOf type.tokens)
        rw [htokens]
        exact (hends''.place hne'').right.right

theorem meets_inputs : Meets (inputs g) region trees fun taken written r =>
    SameEnds written taken ∧ ∀ i ∈ r.1, i.1.PlacedIn (Place taken) := by
  set Own : Tokens → Tokens → List (Input × Tokens) → Prop := fun taken written own =>
    SameEnds written taken ∧ ∀ i ∈ own, i.1.PlacedIn (Place taken)
  refine .collect Prod.fst (K := Own) fun done trees => ?_
  have hstop : ∀ taken written (variadic : Tokens), SameEnds written taken →
      Collects Prod.fst Own done taken written (.inr (done.reverse, variadic)) :=
    fun taken written variadic hends =>
      ⟨[], (List.append_nil _).symm, hends, List.forall_mem_nil _⟩
  refine .of_suffix fun hregion => ?_
  refine .atEnd_bind (.ite (fun _ => .pure (hstop _ _ _ (.refl []))) fun _ => ?_)
  refine meets_outerAttributes.recorded.bind fun taken written r afterAttributes htrees h => ?_
  obtain ⟨rfl, hattributes⟩ := h
  refine .peek_bind (.ite (fun _ => ?_) fun _ => ?_)
  · exact (Meets.recorded .of_located).bind_pure fun taken' written' r' _ _ h =>
      hstop _ _ _ (hattributes.1.append h.2)
  refine meets_inputAfter.recorded.bind fun taken' written' r' afterInput hafter h => ?_
  obtain ⟨tokens, found⟩ := r'
  obtain ⟨rfl, ⟨hends, hne⟩, hbare⟩ := h
  cases found with
  | variadic =>
    exact (Meets.recorded .of_located).bind_pure fun taken'' written'' r'' _ _ h =>
      hstop _ _ _ (hattributes.1.append (hends.append h.2))
  | input i =>
    have hinput := hbare i rfl
    have hplaced := hinput.placedIn hattributes
    dsimp -zeta only
    extract_lets finish
    -- the last input, or one with its comma
    have hfinish : ∀ u, Meets (finish u) region afterInput fun taken'' written'' b =>
        Collects Prod.fst Own done (taken ++ (taken' ++ taken'')) (r.1 ++ (tokens ++ written''))
          b := by
      intro u
      refine .atEnd_bind (.ite (fun _ => .pure ?_) fun _ => ?_)
      · rw [List.append_nil, List.append_nil]
        exact ⟨[(i, [])], List.reverse_cons, hattributes.1.append hends,
          List.forall_mem_singleton.mpr hplaced⟩
      · refine meets_punct.recorded.bind_pure fun comma _ c _ _ h => ⟨(i, c.1), rfl, ?_⟩
        obtain ⟨rfl, hcomma⟩ := h
        rintro taken'' written'' own ⟨hends'', hown⟩
        refine ⟨(hattributes.1.append (hends.append hcomma.sameEnds)).append hends'',
          List.forall_mem_cons.mpr ⟨hplaced.mono fun s hs => ?_, fun j hj => ?_⟩⟩
        · rw [← List.append_assoc taken]
          exact hs.left.left
        · exact (hown j hj).mono fun s hs => hs.right
    cases i with
    | typed p => exact hfinish ()
    | receiver receiver =>
      have hself : afterInput <:+ region → Place region (selfSpan receiver) := by
        intro _
        have hparts : Place taken' (selfSpan receiver) := hinput.parts
        have htaken : Place (taken ++ (taken' ++ afterInput)) (selfSpan receiver) :=
          hparts.left.right
        rw [← hafter, ← htrees] at htaken
        exact htaken.mono hregion.sublist
      have hlate : Meets (if (!done.isEmpty) = true then do
            failAt (selfSpan receiver) .lateReceiver
            finish ()
          else finish ()) region afterInput fun taken'' written'' b =>
          Collects Prod.fst Own done (taken ++ (taken' ++ taken'')) (r.1 ++ (tokens ++ written''))
            b :=
        .ite (fun _ => .failAt_bind hself) fun _ => hfinish ()
      exact .ite (fun _ => .failAt_bind hself) fun _ => hlate

/-! ### Signatures and methods -/

theorem meets_signatureLead : Meets (do
    discard (word? "const")
    let asyncSpan ← word? "async"
    discard (word? "unsafe")
    callingConvention
    discard (word "fn")
    return asyncSpan) region trees fun taken written place =>
      (SameEnds written taken ∧ taken ≠ []) ∧ ∀ s, place = some s → Place taken s := by
  refine Meets.bind (.of_located (p := discard (word? "const"))) ?_
  intro taken written _ afterConst _ hends
  refine meets_word?.bind fun taken' written' place afterAsync _ hasync => ?_
  suffices hrest : Meets (do
      discard (word? "unsafe")
      callingConvention
      discard (word "fn")
      return place) region afterAsync fun taken'' written'' r =>
        (SameEnds written'' taken'' ∧ taken'' ≠ []) ∧ r = place by
    refine hrest.mono fun taken'' written'' r _ h => ?_
    obtain ⟨hends'', rfl⟩ := h
    refine ⟨hends.append_of_right_ne_nil (hasync.sameEnds.append_of_right_ne_nil hends''),
      fun s hs => ?_⟩
    obtain ⟨-, htaken⟩ := hasync
    rw [hs] at htaken
    rw [htaken]
    exact .tree (t := .ident "async" s) (by simp)
  refine Meets.and_yields .of_advances ?_
  exact .bind fun _ => .bind fun _ => .bind fun _ => .pure rfl

/-- Trees for the parts of a signature, in their order: those for its inputs stand in a group, and
those for its conditions need not be written. -/
structure SignatureParts (s : Signature) (lead generics inner arrow out conditions : Tokens) :
    Prop where
  async : ∀ place, s.asyncSpan = some place → Place lead place
  lead : SameEnds s.lead lead ∧ lead ≠ []
  generics : s.generics ≠ [] → Place generics (spanOf s.generics)
  inputs : ∀ i ∈ s.inputs, i.1.PlacedIn (Place inner)
  arrow : SameEnds s.arrow arrow
  output : SameEnds ((s.output.map TypeExpr.tokens).getD []) out
  outputPlace : ∀ t, s.output = some t → Place out t.span
  conditions : s.whereClause = [] ∨ SameEnds s.whereClause conditions

/-- A signature stretches over trees at the start of those taken: conditions that say nothing are
taken and are no part of it. -/
def Signed (taken : Tokens) (s : Signature) : Prop :=
  ∃ core, core <+: taken ∧ core ≠ [] ∧ SameEnds s.tokens core ∧ s.PlacedIn (Place core)

theorem SignatureParts.signed {s : Signature} {lead generics inner arrow out conditions : Tokens}
    (h : SignatureParts s lead generics inner arrow out conditions) :
    Signed (lead ++ ([.ident s.name s.nameSpan] ++ (generics ++
      ([.group .parenthesis inner s.parentheses] ++ (arrow ++ (out ++ conditions)))))) s := by
  obtain ⟨conditions', hends, hprefix⟩ : ∃ conditions', SameEnds s.whereClause conditions' ∧
      conditions' <+: conditions := by
    rcases h.conditions with hnone | hall
    · exact ⟨[], hnone ▸ .refl [], List.nil_prefix⟩
    · exact ⟨conditions, hall, List.prefix_refl _⟩
  refine ⟨lead ++ ([.ident s.name s.nameSpan] ++ (generics ++
    ([.group .parenthesis inner s.parentheses] ++ (arrow ++ (out ++ conditions'))))), ?_,
    List.append_ne_nil_of_left_ne_nil h.lead.2 _, ?_, ?_, fun hne => ?_, fun i hi => ?_,
    fun place hplace => (h.async place hplace).left, fun t ht => ?_⟩
  · simpa only [List.prefix_append_right_inj] using hprefix
  · -- the generics do not matter, since the parentheses stand behind them
    have hgroup : ∀ tokens : Tokens, SameEnds [.group .parenthesis tokens s.parentheses]
        [.group .parenthesis inner s.parentheses] := fun tokens => ⟨rfl, rfl⟩
    have hlast := fun tokens => (hgroup tokens).append (h.arrow.append (h.output.append hends))
    have hall := fun tokens => h.lead.1.between h.lead.2 ([.ident s.name s.nameSpan] ++ s.generics)
      ([.ident s.name s.nameSpan] ++ generics) (hlast tokens) (List.cons_ne_nil _ _)
    simpa only [Signature.tokens, List.append_assoc] using hall _
  · have hname : Place [.ident s.name s.nameSpan] s.nameSpan :=
      .tree (t := .ident s.name s.nameSpan) List.mem_cons_self
    exact hname.left.right
  · exact (h.generics hne).left.right.right
  · refine (h.inputs i hi).mono fun place hplace => ?_
    have hgroup : Place [.group .parenthesis inner s.parentheses] place :=
      .inside List.mem_cons_self hplace
    exact hgroup.left.right.right.right
  · exact (h.outputPlace t ht).left.right.right.right.right.right

theorem meets_signature : Meets (signature g) region trees
    fun taken written s => SameEnds written taken ∧ Signed taken s := by
  refine meets_signatureLead.recorded.bind fun lead _ r afterLead _ h => ?_
  obtain ⟨leadTokens, asyncSpan⟩ := r
  obtain ⟨rfl, hlead, hasync⟩ := h
  refine meets_ident.bind fun _ nameTokens r afterName _ h => ?_
  obtain ⟨name, nameSpan⟩ := r
  obtain ⟨rfl, rfl⟩ := h
  refine meets_genericParameters.bind fun generics written genericTokens afterGenerics _ h => ?_
  obtain ⟨hends, hgenerics⟩ := h
  refine (meets_within (Q := fun inner taken written r => ∀ i ∈ r.1, i.1.PlacedIn (Place inner))
    fun inner => meets_inputs.mono fun own _ _ hown h i hi => (h.2 i hi).mono
      fun s hs => hs.mono hown.sublist).bind fun group _ r afterGroup _ h => ?_
  obtain ⟨⟨inputs, variadic⟩, parentheses⟩ := r
  obtain ⟨inner, own, groupTokens, rfl, rfl, -, hinputs⟩ := h
  refine meets_punct?.recorded.bind fun arrow _ r afterArrow _ h => ?_
  obtain ⟨arrowTokens, returns⟩ := r
  obtain ⟨rfl, harrow⟩ := h
  dsimp -zeta only at hlead hasync hinputs harrow ⊢
  extract_lets finish
  -- the conditions stand behind an output or behind the arrow that is missing
  have hgroup : SameEnds [.group .parenthesis groupTokens parentheses]
      [.group .parenthesis inner parentheses] := ⟨rfl, rfl⟩
  have hfinish : ∀ (output : Option TypeExpr) (out outTokens after : Tokens),
      SameEnds outTokens out → (output.map TypeExpr.tokens).getD [] = outTokens →
      (∀ t, output = some t → Place out t.span) →
      Meets (finish output) region after fun taken' written' s =>
        SameEnds
          (leadTokens ++ ([.ident name nameSpan] ++ (written ++
            ([.group .parenthesis groupTokens parentheses] ++
              (arrowTokens ++ (outTokens ++ written'))))))
          (lead ++ ([.ident name nameSpan] ++ (generics ++
            ([.group .parenthesis inner parentheses] ++ (arrow ++ (out ++ taken')))))) ∧
        Signed
          (lead ++ ([.ident name nameSpan] ++ (generics ++
            ([.group .parenthesis inner parentheses] ++ (arrow ++ (out ++ taken')))))) s := by
    intro output out outTokens after hout htokens houtput
    refine meets_whereClause.bind_pure fun conditions written' r _ _ h => ?_
    obtain ⟨hconditions, hwhere⟩ := h
    refine ⟨hlead.1.append ((SameEnds.refl _).append (hends.append (hgroup.append
      (harrow.sameEnds.append (hout.append hconditions))))), ?_⟩
    have hwhere' : r.2 = [] ∨ SameEnds r.2 conditions :=
      hwhere.imp_right fun (hall : r.2 = written') => hall ▸ hconditions
    exact SignatureParts.signed
      (s := ⟨leadTokens, asyncSpan, name, nameSpan, genericTokens, inputs, variadic, parentheses,
        arrowTokens, output, r.2⟩)
      ⟨hasync, hlead, hgenerics, hinputs, harrow.sameEnds, htokens ▸ hout, houtput, hwhere'⟩
  refine .ite (fun _ => ?_) fun _ => ?_
  · refine ((hg.type true region afterArrow).map (f := some) (R := fun taken written output =>
      SameEnds written taken ∧ (output.map TypeExpr.tokens).getD [] = written ∧
        ∀ t, output = some t → Place taken t.span) fun taken written t _ h => ?_).bind
          fun out outTokens output after _ ⟨hout, htokens, houtput⟩ =>
            hfinish output out outTokens after hout htokens houtput
    obtain ⟨⟨hends, hne⟩, htokens⟩ := h
    refine ⟨hends, htokens, fun t' ht => ?_⟩
    obtain rfl := Option.some.inj ht
    show Place taken (spanOf t.tokens)
    rw [htokens]
    exact hends.place hne
  · exact hfinish none [] [] afterArrow (.refl []) rfl fun t ht => nomatch ht

theorem meets_body : Meets (within .brace do
      let inner ← innerAttributes g
      statements g
      return inner) region trees fun taken written r => SameEnds written taken ∧ taken ≠ [] ∧
        r.2 = spanOf taken ∧ ∀ a ∈ r.1, a.PlacedIn (Place taken) ∧ a.isInner = true := by
  refine (meets_within (Q := fun inner taken written all =>
    ∀ a ∈ all, a.PlacedIn (Place inner) ∧ a.isInner = true)
    fun inner => ?_).mono fun taken written r _ h => ?_
  · refine meets_innerAttributes.bind fun taken written all after htrees h => ?_
    refine Meets.bind (.of_located (p := statements g)) fun taken' written' _ after' _ _ => .pure ?_
    exact fun a ha => ⟨(h.2.2 a ha).1.mono fun s hs => htrees ▸ hs.left, (h.2.2 a ha).2⟩
  · obtain ⟨inner, own, written', rfl, rfl, -, hplaced⟩ := h
    exact ⟨⟨rfl, rfl⟩, List.cons_ne_nil _ _, rfl, fun a ha =>
      ⟨(hplaced a ha).1.mono fun s hs => .inside List.mem_cons_self hs, (hplaced a ha).2⟩⟩

theorem meets_method (attributes : List Attribute) : Meets (method g attributes) region trees
    fun taken written m => (SameEnds written taken ∧ taken ≠ []) ∧ ∃ inner core inside,
      m.attributes = attributes ++ inner ∧ core.Sublist taken ∧
        SameEnds m.signature.tokens core ∧ m.signature.PlacedIn (Place core) ∧
        inside.Sublist taken ∧ (∀ a ∈ inner, a.PlacedIn (Place inside) ∧ a.isInner = true) ∧
        m.body = if inside.isEmpty then none else some (spanOf inside) := by
  refine meets_signature.bind fun taken written s after _ h => ?_
  obtain ⟨hends, core, hcore, hne, hcover, hplaced⟩ := h
  have hne' : ∀ more : Tokens, taken ++ more ≠ [] := by
    obtain ⟨rest, rfl⟩ := hcore
    exact List.append_ne_nil_of_left_ne_nil (List.append_ne_nil_of_left_ne_nil hne rest)
  have hsub : ∀ more : Tokens, core.Sublist (taken ++ more) :=
    fun more => hcore.sublist.trans (List.sublist_append_left taken more)
  refine .peek_bind (.ite (fun _ => ?_) fun _ => ?_)
  · refine meets_body.recorded.bind_pure fun taken' written' r _ _ h => ?_
    obtain ⟨rfl, hends', hbody, hspan, hinner⟩ := h
    refine ⟨⟨hends.append hends', hne' _⟩, r.2.1, core, taken', rfl, hsub _, hcover, hplaced,
      List.sublist_append_right taken taken', hinner, ?_⟩
    rw [if_neg (by simpa using hbody), ← hspan]
  · refine .peek_bind (.ite (fun _ => ?_) fun _ => .expected)
    refine meets_punct.recorded.bind_pure fun taken' written' r _ _ h => ?_
    obtain ⟨rfl, hpunct⟩ := h
    exact ⟨⟨hends.append hpunct.sameEnds, hne' _⟩, [], core, [], (List.append_nil _).symm, hsub _,
      hcover, hplaced, List.nil_sublist _, fun a ha => (nomatch ha), rfl⟩

/-! ### Items -/

instance located_visibility : Located visibility := by
  refine .bind fun found => ?_
  split
  · refine ⟨fun region trees => .rest_bind ?_⟩
    split
    · exact .of_located
    · exact .of_located
  · infer_instance

theorem meets_startsSignature : Meets startsSignature region trees
    fun taken written _ => taken = [] ∧ written = [] :=
  .map (.ahead? fun _ => ⟨rfl, rfl⟩) fun _ _ _ _ h => h

instance advances_constantItem : Advances (constantItem g) := by
  unfold constantItem
  dsimp only
  infer_instance

instance advances_typeItem : Advances (typeItem g) := by
  unfold typeItem
  dsimp only
  infer_instance

instance advances_callItem : Advances callItem := by
  unfold callItem
  infer_instance

instance located_supertraits : Located (supertraits g) := by
  unfold supertraits
  dsimp only
  infer_instance

/-- A method covers its attributes and its signature, where nothing stands between them. -/
theorem placedIn_of_method {taken taken' written : Tokens} {attributes inner : List Attribute}
    {m : Method} {core inside : Tokens} (hattributes : Attributed false taken written attributes)
    (hall : m.attributes = attributes ++ inner) (hcore : core.Sublist taken')
    (hends : SameEnds m.signature.tokens core) (hplaced : m.signature.PlacedIn (Place core))
    (hinside : inside.Sublist taken')
    (hinner : ∀ a ∈ inner, a.PlacedIn (Place inside) ∧ a.isInner = true)
    (hbody : m.body = if inside.isEmpty then none else some (spanOf inside)) :
    (TraitItem.method m).PlacedIn (taken ++ taken') := by
  obtain ⟨hends', rfl, houter⟩ := hattributes
  have hfront : m.frontTokens = attributeTokens attributes ++ m.signature.tokens := by
    have hkept : attributes.filter (fun a => !a.isInner) = attributes :=
      List.filter_eq_self.mpr fun a ha => by rw [Attribute.isInner, (houter a ha).2, Bool.not_false]
    have hleft : inner.filter (fun a => !a.isInner) = [] :=
      List.filter_eq_nil_iff.mpr fun a ha => by rw [(hinner a ha).2]; exact Bool.false_ne_true
    rw [Method.frontTokens, hall, List.filter_append, hkept, hleft, List.append_nil]
  refine ⟨taken ++ core, inside, ⟨hfront ▸ hends'.append hends, ?_, fun a ha => ?_, hbody⟩,
    List.Sublist.append_left hcore taken, hinside.trans (List.sublist_append_right taken taken')⟩
  · exact hplaced.mono fun s hs => hs.right
  · rcases List.mem_append.mp (hall ▸ ha) with hmem | hmem
    · rw [show a.isInner = false from (houter a hmem).2]
      exact (houter a hmem).1.mono fun s hs => hs.left
    · rw [(hinner a hmem).2]
      exact (hinner a hmem).1

theorem meets_traitItem : Meets (traitItem g) region trees fun taken written item =>
    SameEnds written taken ∧ item.PlacedIn taken := by
  refine Meets.bind (Meets.recorded (Q := fun taken written found =>
    (SameEnds written taken ∧ taken ≠ []) ∧
      ∀ m, found = some m → (TraitItem.method m).PlacedIn taken) ?_) ?_
  · refine meets_outerAttributes.bind fun taken written attributes afterAttributes _ h => ?_
    have hends := h.1
    refine (Meets.recorded .of_located).bind fun taken' written' r afterMarks _ hmarks => ?_
    obtain ⟨marks, _⟩ := r
    obtain ⟨rfl, hends'⟩ := hmarks
    dsimp -zeta only at hends' ⊢
    refine .rest_bind ?_
    refine meets_startsSignature.bind ?_
    rintro _ _ signed afterLook _ ⟨rfl, rfl⟩
    have hother : ∀ {p : Parser Unit}, Advances p → Meets (do p; return none) region afterLook
        fun taken'' written'' (found : Option Method) =>
          (SameEnds (written ++ (marks ++ ([] ++ written'')))
              (taken ++ (taken' ++ ([] ++ taken''))) ∧
            taken ++ (taken' ++ ([] ++ taken'')) ≠ []) ∧
          ∀ m, found = some m →
            (TraitItem.method m).PlacedIn (taken ++ (taken' ++ ([] ++ taken''))) := by
      intro p hp
      exact (hp.meets region afterLook).bind_pure fun taken'' written'' _ _ _ h =>
        ⟨hends.append_of_right_ne_nil (hends'.append_of_right_ne_nil h), fun m hm => nomatch hm⟩
    refine .ite (fun _ => ?_) fun _ => ?_
    · refine (meets_method attributes).bind_pure fun taken'' written'' m _ _ hm => ?_
      obtain
        ⟨hmethod, inner, core, inside, hall, hcore, hcover, hplaced, hinside, hinner, hbody⟩ := hm
      refine ⟨hends.append_of_right_ne_nil (hends'.append_of_right_ne_nil hmethod),
        fun m' hm' => ?_⟩
      split at hm'
      · next hmarks =>
        obtain rfl := Option.some.inj hm'
        obtain rfl := hends'.eq_nil_iff.mp (List.isEmpty_iff.mp hmarks)
        exact placedIn_of_method h hall hcore hcover hplaced hinside hinner hbody
      · cases hm'
    · refine .ite (fun _ => hother inferInstance) fun _ => ?_
      refine .ite (fun _ => hother inferInstance) fun _ => ?_
      exact .ite (fun _ => hother inferInstance) fun _ => .expected
  · intro taken written r _ _ h
    obtain ⟨rfl, ⟨hends, hne⟩, hmethod⟩ := h
    refine .pure ?_
    rw [List.append_nil, List.append_nil]
    refine ⟨hends, ?_⟩
    split
    · next m hm => exact hmethod m hm
    · exact hends.place hne

theorem meets_traitItems : Meets (iterate (σ := List TraitItem) (fun done => do
      if ← atEnd then return .inr done.reverse
      return .inl ((← traitItem g) :: done)) []) region trees
    fun taken _ items => ∀ item ∈ items, item.PlacedIn taken := by
  refine .collect id (K := fun taken _ (own : List TraitItem) =>
    ∀ item ∈ own, item.PlacedIn taken) fun done trees => ?_
  refine .atEnd_bind (.ite (fun _ => .pure ?_) fun _ => ?_)
  · exact ⟨[], (List.append_nil _).symm, List.forall_mem_nil _⟩
  · refine meets_traitItem.bind_pure fun taken _ item _ _ h => ⟨item, rfl, ?_⟩
    intro taken' _ own hown
    exact List.forall_mem_cons.mpr ⟨h.2.mono (List.sublist_append_left taken taken'),
      fun other hother => (hown other hother).mono (List.sublist_append_right taken taken')⟩

theorem meets_traitDecl : Meets (traitDecl g) region trees fun taken _ t => t.PlacedIn taken := by
  refine Meets.bind (.of_located (p := outerAttributes g)) fun first _ outer _ _ _ => ?_
  refine Meets.bind (.of_located (p := recorded visibility)) fun second _ _ _ _ _ => ?_
  refine Meets.bind (.of_located (p := recorded do
    discard (word? "unsafe")
    discard (word? "auto")
    word "trait")) fun third _ _ _ _ _ => ?_
  refine meets_ident.bind fun _ name r afterName _ h => ?_
  obtain ⟨text, nameSpan⟩ := r
  obtain ⟨rfl, rfl⟩ := h
  refine meets_genericParameters.bind fun generics _ genericTokens _ _ h => ?_
  obtain ⟨-, hgenerics⟩ := h
  refine Meets.bind (.of_located (p := recorded (punct? ":"))) fun colon _ r _ _ _ => ?_
  refine (Meets.recorded (.of_located (p := if r.2 = true then supertraits g else pure ()))).bind
    fun bounds _ r' _ _ h => ?_
  obtain ⟨rfl, hbounds⟩ := h
  refine meets_whereClause.bind fun conditions _ r'' _ _ _ => ?_
  refine (meets_within (Q := fun inner _ _ r => ∀ item ∈ r.2, item.PlacedIn inner)
    fun inner => ?_).bind fun group _ r''' _ _ h => .pure ?_
  · refine Meets.bind (.of_located (p := innerAttributes g)) fun taken _ _ _ htrees _ => ?_
    refine meets_traitItems.bind fun taken' _ items _ htrees' h => .pure fun item hitem => ?_
    exact (h item hitem).mono (htrees ▸ htrees' ▸
      (List.sublist_append_left _ _).trans (List.sublist_append_right _ _))
  · obtain ⟨inner, own, written, rfl, rfl, -, hitems⟩ := h
    refine ⟨fun hne => ?_, fun hne => ?_, .brace, inner, r'''.2, by simp, hitems⟩
    · exact (hgenerics hne).left.right.right.right.right
    · have hplace := hbounds.place fun hnil => hne (hbounds.eq_nil_iff.mpr hnil)
      exact hplace.left.right.right.right.right.right.right

end

end Parser

/-- The parts of a trait are at places of the trees that it has been read from. -/
theorem TraitDecl.placedIn_of_parse {tokens : Tokens} {t : TraitDecl}
    (h : TraitDecl.parse tokens = .ok t) : t.PlacedIn tokens := by
  obtain ⟨-, hplaced⟩ := Parser.meets_traitDecl.of_runAll h
  exact hplaced

end RestClient.Code
