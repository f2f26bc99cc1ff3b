import RestClient.Code.Parser
import RestClient.Proofs.Code.Places

/-!
# Where parsers are

A parser takes trees from the front of those that are left, points at places among the trees where
it fails, and writes something that starts and ends where the trees that it took do. A triple says
this of one run together with what else holds of the trees, of what is written for them, and of the
value. Two classes carry the plain cases through everything that is put together from parsers.

## Main definitions

- `Parser.Meets` — what a parser does where some trees are left
- `Parser.Located` — it keeps to the places of the trees
- `Parser.Advances` — and it takes a tree at least
-/

namespace RestClient.Code.Parser

variable {α β σ : Type}

/-- The state has moved over the trees `taken`, for which `written` has been written. Complaints
about trees left over have been added only in the region. -/
structure Moved (region : Tokens) (before after : Cursor) (taken written : Tokens) : Prop where
  rest : before.rest = taken ++ after.rest
  scope : after.scope = before.scope
  written : after.written = written.reverse ++ before.written
  leftover : ∀ fault, after.leftover = some fault →
    before.leftover = some fault ∨ Place region fault.span

/-- Where `trees` are left at the end of a region, a parser fails at a place in the region or at the
end of it, or it moves on so that `Q` holds of the trees that it takes, of what it writes and of its
value. -/
def Meets (p : Parser α) (region trees : Tokens) (Q : Tokens → Tokens → α → Prop) : Prop :=
  trees <:+ region → ∀ before : Cursor, before.rest = trees →
    (∀ fault, p.run before = .error fault →
      fault.span = before.scope ∨ Place region fault.span) ∧
    ∀ a after, p.run before = .ok (a, after) →
      ∃ taken written, Moved region before after taken written ∧ Q taken written a

namespace Moved

variable {region taken taken' written written' : Tokens} {a b c : Cursor}

theorem refl (region : Tokens) (c : Cursor) : Moved region c c [] [] :=
  ⟨rfl, rfl, rfl, fun _ h => .inl h⟩

theorem trans (hab : Moved region a b taken written) (hbc : Moved region b c taken' written') :
    Moved region a c (taken ++ taken') (written ++ written') := by
  refine ⟨?_, hbc.scope.trans hab.scope, ?_, fun fault h => ?_⟩
  · rw [hab.rest, hbc.rest, List.append_assoc]
  · rw [hbc.written, hab.written, List.reverse_append, List.append_assoc]
  · rcases hbc.leftover fault h with hb | hplace
    · exact hab.leftover fault hb
    · exact .inr hplace

end Moved

namespace Meets

variable {p : Parser α} {region trees : Tokens} {Q Q' : Tokens → Tokens → α → Prop}

theorem mono (h : Meets p region trees Q)
    (hQ : ∀ taken written a, taken <+: trees → Q taken written a → Q' taken written a) :
    Meets p region trees Q' := by
  intro hregion before hbefore
  obtain ⟨herror, hok⟩ := h hregion before hbefore
  refine ⟨herror, fun a after hrun => ?_⟩
  obtain ⟨taken, written, hmoved, hq⟩ := hok a after hrun
  refine ⟨taken, written, hmoved, hQ _ _ _ ?_ hq⟩
  rw [← hbefore, hmoved.rest]
  exact List.prefix_append _ _

theorem of_ok (a : α) (after : Cursor → Cursor) {taken written : Tokens}
    (hrun : ∀ before : Cursor, before.rest = trees → p.run before = .ok (a, after before))
    (hmoved : ∀ before : Cursor, before.rest = trees →
      Moved region before (after before) taken written) (hq : Q taken written a) :
    Meets p region trees Q := by
  intro _ before hbefore
  rw [hrun before hbefore]
  refine ⟨fun fault h => ?_, fun b after' h => ?_⟩
  · cases h
  · obtain ⟨rfl, rfl⟩ := Prod.mk.inj (Except.ok.inj h)
    exact ⟨taken, written, hmoved before hbefore, hq⟩

theorem of_error (fault : Cursor → SyntaxFault)
    (hrun : ∀ before : Cursor, before.rest = trees → p.run before = .error (fault before))
    (hfault : ∀ before : Cursor, before.rest = trees → trees <:+ region →
      (fault before).span = before.scope ∨ Place region (fault before).span) :
    Meets p region trees Q := by
  intro hregion before hbefore
  rw [hrun before hbefore]
  refine ⟨fun fault' h => ?_, fun b after h => ?_⟩
  · rw [← Except.error.inj h]
    exact hfault before hbefore hregion
  · cases h

theorem pure {a : α} (h : Q [] [] a) : Meets (pure a) region trees Q :=
  of_ok a id (fun _ _ => rfl) (fun before _ => .refl region before) h

theorem bind {f : α → Parser β} {R : Tokens → Tokens → β → Prop} (hp : Meets p region trees Q)
    (hf : ∀ taken written a rest, trees = taken ++ rest → Q taken written a →
      Meets (f a) region rest fun taken' written' b =>
        R (taken ++ taken') (written ++ written') b) : Meets (p >>= f) region trees R := by
  intro hregion before hbefore
  obtain ⟨herror, hok⟩ := hp hregion before hbefore
  have hrun : (p >>= f).run before = p.run before >>= fun r => (f r.1).run r.2 := rfl
  rw [hrun]
  cases hfirst : p.run before with
  | error fault =>
    refine ⟨fun fault' h => ?_, fun b after h => nomatch h⟩
    obtain rfl : fault = fault' := Except.error.inj h
    exact herror fault hfirst
  | ok r =>
    obtain ⟨a, middle⟩ := r
    obtain ⟨taken, written, hmoved, hq⟩ := hok a middle hfirst
    have htrees : trees = taken ++ middle.rest := hbefore.symm.trans hmoved.rest
    -- what is left for the second step is still the end of the region
    have hsuffix : middle.rest <:+ region := by
      rw [htrees] at hregion
      exact (List.suffix_append _ _).trans hregion
    obtain ⟨herror', hok'⟩ := hf taken written a middle.rest htrees hq hsuffix middle rfl
    refine ⟨fun fault h => ?_, fun b after h => ?_⟩
    · rw [← hmoved.scope]
      exact herror' fault h
    · obtain ⟨taken', written', hmoved', hr⟩ := hok' b after h
      exact ⟨_, _, hmoved.trans hmoved', hr⟩

/-- A last step whose value is made into another one. -/
theorem bind_pure {f : α → β} {R : Tokens → Tokens → β → Prop} (hp : Meets p region trees Q)
    (hR : ∀ taken written a rest, trees = taken ++ rest → Q taken written a →
      R taken written (f a)) : Meets (p >>= fun a => Pure.pure (f a)) region trees R := by
  refine hp.bind fun taken written a rest htrees hq => pure ?_
  rw [List.append_nil, List.append_nil]
  exact hR taken written a rest htrees hq

theorem map {f : α → β} {R : Tokens → Tokens → β → Prop} (hp : Meets p region trees Q)
    (hR : ∀ taken written a, taken <+: trees → Q taken written a → R taken written (f a)) :
    Meets (f <$> p) region trees R :=
  hp.bind_pure fun _ _ _ _ htrees hq => hR _ _ _ (htrees ▸ List.prefix_append _ _) hq

theorem discard (h : Meets p region trees Q) :
    Meets (discard p) region trees fun taken written _ => ∃ a, Q taken written a :=
  h.map (f := fun _ => PUnit.unit) fun _ _ a _ hq => ⟨a, hq⟩

/-- A first step that leaves the state as it is. -/
theorem look {q : Parser α} {f : α → Parser β} {R : Tokens → Tokens → β → Prop} {a : α}
    (hq : ∀ before : Cursor, before.rest = trees → q.run before = .ok (a, before))
    (hf : Meets (f a) region trees R) : Meets (q >>= f) region trees R := by
  intro hregion before hbefore
  have hrun : (q >>= f).run before = (f a).run before := by
    show q.run before >>= (fun r => (f r.1).run r.2) = _
    rw [hq before hbefore]
    rfl
  rw [hrun]
  exact hf hregion before hbefore

theorem ite {c : Prop} [Decidable c] {q : Parser α} (hp : c → Meets p region trees Q)
    (hq : ¬ c → Meets q region trees Q) : Meets (if c then p else q) region trees Q := by
  split
  · next h => exact hp h
  · next h => exact hq h

end Meets

theorem Meets.of_suffix {p : Parser α} {region trees : Tokens} {Q : Tokens → Tokens → α → Prop}
    (h : trees <:+ region → Meets p region trees Q) : Meets p region trees Q :=
  fun hregion => h hregion hregion

/-! ### Values -/

/-- Where two steps answer, each of them does. -/
theorem run_bind_eq_ok {p : Parser α} {f : α → Parser β} {before after : Cursor} {b : β}
    (h : (p >>= f).run before = .ok (b, after)) :
    ∃ a middle, p.run before = .ok (a, middle) ∧ (f a).run middle = .ok (b, after) := by
  have hrun : (p >>= f).run before = p.run before >>= fun r => (f r.1).run r.2 := rfl
  rw [hrun] at h
  cases hp : p.run before with
  | error fault =>
    rw [hp] at h
    cases h
  | ok r =>
    rw [hp] at h
    exact ⟨r.1, r.2, rfl, h⟩

/-- Every value of a parser satisfies `P`. -/
def Yields (p : Parser α) (P : α → Prop) : Prop :=
  ∀ before a after, p.run before = .ok (a, after) → P a

section

variable {p : Parser α} {P : α → Prop}

theorem Yields.pure {a : α} (h : P a) : Yields (pure a) P := by
  intro before b after hrun
  obtain ⟨rfl, -⟩ := Prod.mk.inj (Except.ok.inj hrun)
  exact h

theorem Yields.bind {q : Parser β} {f : β → Parser α} (h : ∀ b, Yields (f b) P) :
    Yields (q >>= f) P := by
  intro before a after hrun
  obtain ⟨b, middle, -, hrest⟩ := run_bind_eq_ok hrun
  exact h b middle a after hrest

theorem Yields.ite {c : Prop} [Decidable c] {q : Parser α} (hp : Yields p P) (hq : Yields q P) :
    Yields (if c then p else q) P := by
  split
  · exact hp
  · exact hq

theorem Yields.fail {c : Complaint} : Yields (fail c) P := by
  intro before a after hrun
  cases hrest : before.rest with
  | nil =>
    unfold Parser.fail at hrun
    simp [hrest] at hrun
    cases hrun
  | cons tree rest =>
    unfold Parser.fail at hrun
    simp [hrest] at hrun
    cases hrun

theorem Yields.failAt {c : Complaint} {s : Span} : Yields (failAt s c) P := by
  intro before a after hrun
  cases hrun

theorem Meets.and_yields {region trees : Tokens} {Q : Tokens → Tokens → α → Prop}
    (h : Meets p region trees Q) (hP : Yields p P) :
    Meets p region trees fun taken written a => Q taken written a ∧ P a := by
  intro hregion before hbefore
  obtain ⟨herror, hok⟩ := h hregion before hbefore
  refine ⟨herror, fun a after hrun => ?_⟩
  obtain ⟨taken, written, hmoved, hq⟩ := hok a after hrun
  exact ⟨taken, written, hmoved, hq, hP before a after hrun⟩

end

/-! ### Single steps -/

section

variable {region trees : Tokens} {Q : Tokens → Tokens → α → Prop} {R : Tokens → Tokens → β → Prop}

theorem Meets.rest_bind {f : Tokens → Parser β} (h : Meets (f trees) region trees R) :
    Meets (rest >>= f) region trees R :=
  .look (fun _ hbefore => by rw [← hbefore]; rfl) h

theorem Meets.atEnd_bind {f : Bool → Parser β} (h : Meets (f trees.isEmpty) region trees R) :
    Meets (atEnd >>= f) region trees R :=
  .look (fun _ hbefore => by rw [← hbefore]; rfl) h

theorem Meets.peek_bind {test : Tokens → Bool} {f : Bool → Parser β}
    (h : Meets (f (test trees)) region trees R) : Meets (peek test >>= f) region trees R :=
  .look (fun _ hbefore => by rw [← hbefore]; rfl) h

theorem Meets.peek2_bind {test : Tokens → Bool} {f : Bool → Parser β}
    (h : Meets (f (test (trees.drop 1))) region trees R) :
    Meets (peek2 test >>= f) region trees R :=
  .look (fun _ hbefore => by rw [← hbefore]; rfl) h

theorem Meets.fail {c : Complaint} : Meets (fail c) region trees Q := by
  cases trees with
  | nil =>
    refine .of_error (fun before => ⟨c, before.scope, true⟩) (fun before hbefore => ?_)
      (fun before _ _ => .inl rfl)
    unfold Parser.fail
    simp [hbefore]
    rfl
  | cons tree rest =>
    refine .of_error (fun _ => ⟨c, tree.headSpan, false⟩) (fun before hbefore => ?_)
      (fun before _ hregion => .inr (.head (hregion.subset List.mem_cons_self)))
    unfold Parser.fail
    simp [hbefore]
    rfl

theorem Meets.fail_bind {c : Complaint} {f : α → Parser β} :
    Meets (Parser.fail c >>= f) region trees R :=
  (Meets.fail (Q := fun _ _ _ => False)).bind fun _ _ _ _ _ h => h.elim

theorem Meets.expected {what : String} : Meets (expected what) region trees Q :=
  .fail

theorem Meets.failAt {c : Complaint} {s : Span} (h : trees <:+ region → Place region s) :
    Meets (failAt s c) region trees Q :=
  .of_error (fun _ => ⟨c, s, false⟩) (fun _ _ => rfl)
    (fun _ _ hregion => .inr (h hregion))

theorem Meets.failAt_bind {c : Complaint} {s : Span} {f : α → Parser β}
    (h : trees <:+ region → Place region s) : Meets (Parser.failAt s c >>= f) region trees R :=
  (Meets.failAt (Q := fun _ _ _ => False) h).bind fun _ _ _ _ _ h => h.elim

theorem Meets.take {n : Nat} {Q : Tokens → Tokens → Tokens → Prop}
    (h : Q (trees.take n) (trees.take n) (trees.take n)) : Meets (take n) region trees Q := by
  refine .of_ok (trees.take n)
    (fun before => { before with
      rest := before.rest.drop n, written := (before.rest.take n).reverse ++ before.written })
    (fun before hbefore => by rw [← hbefore]; rfl) (fun before hbefore => ?_) h
  rw [← hbefore]
  exact ⟨(List.take_append_drop n before.rest).symm, rfl, rfl, fun _ h => .inl h⟩

/-- What a parser writes is written apart: `f` of it is written in the end, and `g` of it is the
value. -/
theorem Meets.apart {p : Parser α} {q : Parser β} {f : α → Tokens → Tokens} {g : α → Tokens → β}
    (hrun : ∀ before : Cursor, q.run before = p.run { before with written := [] } >>= fun r =>
      .ok (g r.1 r.2.written.reverse, { r.2 with
        written := (f r.1 r.2.written.reverse).reverse ++ before.written }))
    (h : Meets p region trees Q) : Meets q region trees fun taken written b =>
      ∃ a own, written = f a own ∧ b = g a own ∧ Q taken own a := by
  intro hregion before hbefore
  obtain ⟨herror, hok⟩ := h hregion { before with written := [] } hbefore
  rw [hrun]
  cases hp : p.run { before with written := [] } with
  | error fault =>
    refine ⟨fun fault' h => ?_, fun b after h => nomatch h⟩
    obtain rfl : fault = fault' := Except.error.inj h
    exact herror fault hp
  | ok r =>
    obtain ⟨a, after⟩ := r
    obtain ⟨taken, written, hmoved, hq⟩ := hok a after hp
    refine ⟨fun fault h => (nomatch h), fun b after' h => ?_⟩
    obtain ⟨rfl, rfl⟩ := Prod.mk.inj (Except.ok.inj h)
    have hwritten : after.written.reverse = written := by simp [hmoved.written]
    refine ⟨taken, f a written, ⟨hmoved.rest, hmoved.scope, ?_, hmoved.leftover⟩, a, written, rfl,
      ?_, hq⟩
    · show (f a after.written.reverse).reverse ++ before.written = _
      rw [hwritten]
    · show g a after.written.reverse = _
      rw [hwritten]

theorem Meets.recorded {p : Parser α} (h : Meets p region trees Q) :
    Meets (recorded p) region trees fun taken written r => r.1 = written ∧ Q taken written r.2 := by
  have hrun : ∀ before : Cursor, (Parser.recorded p).run before =
      p.run { before with written := [] } >>= fun r => .ok ((r.2.written.reverse, r.1),
        { r.2 with written := r.2.written.reverse.reverse ++ before.written }) := by
    intro before
    simp only [List.reverse_reverse]
    rfl
  refine (h.apart (f := fun _ own => own) (g := fun a own => (own, a)) hrun).mono ?_
  rintro taken written r - ⟨a, own, rfl, rfl, hq⟩
  exact ⟨rfl, hq⟩

theorem Meets.rewriting {p : Parser α} {f : α → Tokens → Tokens} (h : Meets p region trees Q) :
    Meets (rewriting p f) region trees fun taken written a =>
      ∃ own, written = f a own ∧ Q taken own a := by
  refine (h.apart (g := fun a _ => a) fun before => rfl).mono ?_
  rintro taken written a - ⟨_, own, hwritten, rfl, hq⟩
  exact ⟨own, hwritten, hq⟩

/-- What is looked for ahead leaves no trace. -/
theorem run_ahead? (p : Parser α) (before : Cursor) :
    (ahead? p).run before = .ok ((p.run before).toOption, before) := by
  have hget : (get : Parser Cursor).run before = .ok (before, before) := rfl
  unfold ahead?
  rw [StateT.run_bind, hget]
  dsimp only [bind, Except.bind]
  cases p.run before with
  | error fault => rfl
  | ok r => rfl

theorem Meets.ahead? {p : Parser α} {Q : Tokens → Tokens → Option (α × Cursor) → Prop}
    (h : ∀ found, Q [] [] found) : Meets (ahead? p) region trees Q := by
  intro _ before _
  rw [run_ahead?]
  refine ⟨fun fault h => (nomatch h), fun found after h' => ?_⟩
  obtain ⟨rfl, rfl⟩ := Prod.mk.inj (Except.ok.inj h')
  exact ⟨[], [], .refl _ _, h _⟩

/-- A parser that is tried first, and is run if it succeeds. -/
theorem Meets.ahead?_bind {p : Parser α} {f : Option (α × Cursor) → Parser β} {k : α → Parser β}
    (hsome : ∀ a cursor, f (some (a, cursor)) = do set cursor; k a)
    (hok : Meets (p >>= k) region trees R) (hnone : Meets (f none) region trees R) :
    Meets (Parser.ahead? p >>= f) region trees R := by
  intro hregion before hbefore
  have hrun : (Parser.ahead? p >>= f).run before = (f (p.run before).toOption).run before := by
    show (Parser.ahead? p).run before >>= (fun r => (f r.1).run r.2) = _
    rw [run_ahead?]
    rfl
  cases hp : p.run before with
  | error fault =>
    rw [hrun, hp]
    exact hnone hregion before hbefore
  | ok r =>
    have hsame : (Parser.ahead? p >>= f).run before = (p >>= k).run before := by
      have hk : (p >>= k).run before = p.run before >>= fun r => (k r.1).run r.2 := rfl
      rw [hrun, hk, hp]
      show (f (some r)).run before = _
      rw [hsome]
      rfl
    rw [hsame]
    exact hok hregion before hbefore

/-- A step of an iteration does its part for `R`: it answers so that `R` holds, or `R` of the rest
is `R` of the whole. -/
def Contributes (R : σ → Tokens → Tokens → β → Prop) (s : σ) (taken written : Tokens) :
    σ ⊕ β → Prop
  | .inl s' => ∀ taken' written' b, R s' taken' written' b →
      R s (taken ++ taken') (written ++ written') b
  | .inr b => R s taken written b

/-- What every step does its part for, a whole iteration does. -/
theorem Meets.iterate {step : σ → Parser (σ ⊕ β)} {R : σ → Tokens → Tokens → β → Prop}
    (hstep : ∀ s trees, Meets (step s) region trees (Contributes R s)) (s : σ) :
    Meets (iterate step s) region trees (R s) := by
  -- by induction on the steps that are allowed; each of them has a state and trees of its own
  have hall : ∀ (n : Nat) (s : σ) (trees : Tokens),
      Meets (iterateAtMost step n s) region trees (R s) := by
    intro n
    induction n with
    | zero => exact fun _ _ => .fail
    | succ n ih =>
      intro s trees
      refine (hstep s trees).bind fun taken written r rest _ hr => ?_
      cases r with
      | inl s' => exact (ih s' rest).mono fun taken' written' b _ hb => hr taken' written' b hb
      | inr b =>
        refine .pure ?_
        rw [List.append_nil, List.append_nil]
        exact hr
  exact .rest_bind (hall _ s trees)

/-- A step of an iteration that collects puts one more value in front of those it has, which is
what `K` needs of it, or it answers with these and with some last ones. -/
def Collects (list : β → List α) (K : Tokens → Tokens → List α → Prop) (done : List α)
    (taken written : Tokens) : List α ⊕ β → Prop
  | .inl more => ∃ a, more = a :: done ∧ ∀ taken' written' own, K taken' written' own →
      K (taken ++ taken') (written ++ written') (a :: own)
  | .inr b => ∃ own, list b = done.reverse ++ own ∧ K taken written own

theorem Meets.collect (list : β → List α) {step : List α → Parser (List α ⊕ β)}
    {K : Tokens → Tokens → List α → Prop}
    (hstep : ∀ done trees, Meets (step done) region trees (Collects list K done)) :
    Meets (Parser.iterate step []) region trees fun taken written b =>
      K taken written (list b) := by
  refine (Meets.iterate (R := fun done taken written b =>
    ∃ own, list b = done.reverse ++ own ∧ K taken written own) (fun done trees => ?_) []).mono ?_
  · refine (hstep done trees).mono fun taken written r _ h => ?_
    cases r with
    | inl more =>
      obtain ⟨a, rfl, hcons⟩ := h
      rintro taken' written' b ⟨own, hlist, hown⟩
      refine ⟨a :: own, ?_, hcons _ _ _ hown⟩
      rw [hlist, List.reverse_cons, List.append_assoc, List.singleton_append]
    | inr b => exact h
  · rintro taken written b - ⟨own, hlist, hown⟩
    rw [hlist]
    exact hown

end

/-! ### Taking trees -/

section

variable {region trees : Tokens} {text : String}

/-- The trees that are taken are written, and they satisfy `P` with the value. -/
def Copies (P : Tokens → α → Prop) (taken written : Tokens) (a : α) : Prop :=
  written = taken ∧ P taken a

theorem Copies.intro {P : Tokens → α → Prop} {taken : Tokens} {a : α} (h : P taken a) :
    Copies P taken taken a :=
  ⟨rfl, h⟩

theorem meets_skip {n : Nat} : Meets (discard (take n)) region trees
    (Copies fun taken _ => taken = trees.take n) :=
  (Meets.take (Copies.intro (P := fun taken _ => taken = trees.take n) rfl)).discard.mono
    fun _ _ _ _ ⟨_, h⟩ => h

theorem meets_punct : Meets (punct text) region trees
    (Copies fun taken _ => taken = trees.take text.length ∧ isPunct text trees = true) := by
  refine .peek_bind (.ite (fun htext => ?_) fun _ => .expected)
  exact meets_skip.mono fun _ _ _ _ ⟨hwritten, htaken⟩ => ⟨hwritten, htaken, htext⟩

theorem meets_punct? : Meets (punct? text) region trees
    (Copies fun taken found => found = isPunct text trees ∧
      taken = if isPunct text trees then trees.take text.length else []) := by
  refine .peek_bind (.ite (fun htext => ?_) fun htext => .pure (.intro ?_))
  · refine meets_skip.bind ?_
    rintro _ _ _ rest _ ⟨rfl, rfl⟩
    refine .pure ?_
    rw [List.append_nil]
    exact .intro ⟨htext.symm, (if_pos htext).symm⟩
  · exact ⟨(Bool.eq_false_iff.mpr htext).symm, (if_neg htext).symm⟩

theorem meets_word : Meets (word text) region trees
    (Copies fun taken span => taken = [.ident text span]) := by
  refine .rest_bind ?_
  split
  · next t span after =>
    refine .ite (fun ht => ?_) fun _ => .expected
    refine meets_skip.bind ?_
    rintro _ _ _ rest _ ⟨rfl, rfl⟩
    exact .pure (.intro (by rw [ht]; rfl))
  · exact .expected

theorem meets_word? : Meets (word? text) region trees
    (Copies fun taken found => taken = (found.map (TokenTree.ident text)).toList) := by
  refine .peek_bind (.ite (fun _ => ?_) fun _ => .pure (.intro rfl))
  refine meets_word.bind ?_
  rintro _ _ span rest _ ⟨rfl, rfl⟩
  exact .pure (.intro rfl)

theorem meets_ident : Meets ident region trees
    (Copies fun taken r => taken = [.ident r.1 r.2]) := by
  refine .rest_bind ?_
  split
  · next text span after =>
    refine .ite (fun _ => .fail) fun _ => ?_
    refine meets_skip.bind ?_
    rintro _ _ _ rest _ ⟨rfl, rfl⟩
    exact .pure (.intro rfl)
  · exact .expected

theorem meets_anyName : Meets anyName region trees
    (Copies fun taken r => taken = [.ident r.1 r.2]) := by
  refine .rest_bind ?_
  split
  · next text span after =>
    refine meets_skip.bind ?_
    rintro _ _ _ rest _ ⟨rfl, rfl⟩
    exact .pure (.intro rfl)
  · exact .expected

theorem meets_lifetime : Meets lifetime region trees
    (Copies fun taken _ => taken = trees.take 1 ∧ isLifetime trees = true) := by
  refine .peek_bind (.ite (fun h => ?_) fun _ => .expected)
  exact meets_skip.mono fun _ _ _ _ ⟨hwritten, htaken⟩ => ⟨hwritten, htaken, h⟩

theorem meets_lifetime? : Meets lifetime? region trees
    (Copies fun taken _ => taken = if isLifetime trees then trees.take 1 else []) := by
  refine .peek_bind (.ite (fun h => ?_) fun h => .pure (.intro (if_neg h).symm))
  exact meets_skip.mono fun _ _ _ _ ⟨hwritten, htaken⟩ => ⟨hwritten, htaken.trans (if_pos h).symm⟩

theorem meets_anyGroup : Meets anyGroup region trees
    (Copies fun taken tree => taken = [tree]) := by
  refine .rest_bind ?_
  split
  · refine meets_skip.bind ?_
    rintro _ _ _ rest _ ⟨rfl, rfl⟩
    exact .pure (.intro rfl)
  · exact .expected

theorem place_of_leftoverFault {closing : Option Delimiter} {fault : SyntaxFault}
    (h : leftoverFault closing trees = some fault) : Place trees fault.span := by
  cases trees with
  | nil => cases h
  | cons tree rest =>
    cases tree with
    | group d inner span =>
      obtain rfl := Option.some.inj h
      exact .tree List.mem_cons_self
    | _ =>
      obtain rfl := Option.some.inj h
      exact .head List.mem_cons_self

theorem run_within_eq {d : Delimiter} {p : Parser α} {before : Cursor} :
    (within d p).run before = (match before.rest with
    | .group e inner span :: after =>
      if d = e then
        match p.run ⟨inner, span.lastChar, before.leftover, []⟩ with
        | .error fault => throw fault
        | .ok (value, c) => do
          set { before with
            rest := after
            leftover := c.leftover <|> leftoverFault (some d) c.rest
            written := .group d c.written.reverse span :: before.written }
          return (value, span)
      else Parser.expected (groupName d)
    | _ => Parser.expected (groupName d) : Parser (α × Span)).run before :=
  rfl

theorem run_within {d : Delimiter} {p : Parser α} {inner after : Tokens} {span : Span}
    {before : Cursor} (hbefore : before.rest = .group d inner span :: after) :
    (within d p).run before = p.run ⟨inner, span.lastChar, before.leftover, []⟩ >>= fun r =>
      .ok ((r.1, span), { before with
        rest := after
        leftover := r.2.leftover <|> leftoverFault (some d) r.2.rest
        written := .group d r.2.written.reverse span :: before.written }) := by
  rw [run_within_eq, hbefore]
  dsimp only
  rw [if_pos rfl]
  cases p.run ⟨inner, span.lastChar, before.leftover, []⟩ with
  | error fault => rfl
  | ok r => rfl

theorem run_within_of_ne {d : Delimiter} {p : Parser α} {before : Cursor}
    (h : ∀ inner span after, before.rest ≠ .group d inner span :: after) :
    (within d p).run before = (Parser.expected (groupName d)).run before := by
  rw [run_within_eq]
  cases hrest : before.rest with
  | nil => rfl
  | cons tree after =>
    cases tree with
    | group e inner span =>
      dsimp only
      rw [if_neg]
      rintro rfl
      exact h inner span after hrest
    | _ => rfl

/-- What is entered has places of its own, and so has its end. -/
theorem meets_within {d : Delimiter} {p : Parser α} {Q : Tokens → Tokens → Tokens → α → Prop}
    (hp : ∀ inner, Meets p inner inner (Q inner)) : Meets (within d p) region trees
      fun taken written r => ∃ inner own written', taken = [.group d inner r.2] ∧
        written = [.group d written' r.2] ∧ own <+: inner ∧ Q inner own written' r.1 := by
  intro hregion before hbefore
  by_cases hgroup : ∃ inner span after, trees = .group d inner span :: after
  · obtain ⟨inner, span, after, rfl⟩ := hgroup
    have hmem : .group d inner span ∈ region := hregion.subset List.mem_cons_self
    obtain ⟨herror, hok⟩ := hp inner (List.suffix_refl inner)
      ⟨inner, span.lastChar, before.leftover, []⟩ rfl
    rw [run_within hbefore]
    cases hrun : p.run ⟨inner, span.lastChar, before.leftover, []⟩ with
    | error fault =>
      refine ⟨fun fault' h => ?_, fun b after h => nomatch h⟩
      obtain rfl : fault = fault' := Except.error.inj h
      rcases herror fault hrun with hend | hplace
      · rw [hend]
        exact .inr (.closing hmem)
      · exact .inr (.inside hmem hplace)
    | ok r =>
      obtain ⟨a, c⟩ := r
      obtain ⟨own, written', hmoved, hq⟩ := hok a c hrun
      refine ⟨fun fault h => (nomatch h), fun b after' h => ?_⟩
      obtain ⟨rfl, rfl⟩ := Prod.mk.inj (Except.ok.inj h)
      have hinner : inner = own ++ c.rest := hmoved.rest
      have hwritten : c.written.reverse = written' := by simp [hmoved.written]
      refine ⟨[.group d inner span], [.group d written' span], ⟨hbefore, rfl, ?_, ?_⟩,
        inner, own, written', rfl, rfl, ⟨c.rest, hinner.symm⟩, hq⟩
      · show .group d c.written.reverse span :: before.written = _
        rw [hwritten]
        rfl
      · intro fault hfault
        cases hleftover : c.leftover with
        | some first =>
          rw [hleftover] at hfault
          obtain rfl : first = fault := Option.some.inj hfault
          exact (hmoved.leftover first hleftover).imp_right (.inside hmem)
        | none =>
          rw [hleftover] at hfault
          have hplace : Place (own ++ c.rest) fault.span := (place_of_leftoverFault hfault).right
          exact .inr (.inside hmem (hinner ▸ hplace))
  · -- no group of the kind is there
    have hne : ∀ inner span after, before.rest ≠ .group d inner span :: after := by
      intro inner span after h
      exact hgroup ⟨inner, span, after, hbefore.symm.trans h⟩
    rw [run_within_of_ne hne]
    exact Meets.expected hregion before hbefore

end

/-! ### Whole lists -/

section

variable {p : Parser α} {trees : Tokens} {Q : Tokens → Tokens → α → Prop} {scope : Span}

/-- A parser that is run on all of some trees fails at a place in them or at their end. -/
theorem Meets.place_of_runAll (hp : Meets p trees trees Q) {fault : SyntaxFault}
    (h : runAll p trees scope = .error fault) : fault.span = scope ∨ Place trees fault.span := by
  obtain ⟨herror, hok⟩ := hp (List.suffix_refl trees) (start trees scope) rfl
  unfold runAll at h
  cases hrun : p.run (start trees scope) with
  | error first =>
    rw [hrun] at h
    obtain rfl := Except.error.inj h
    exact herror first hrun
  | ok r =>
    obtain ⟨a, after⟩ := r
    obtain ⟨taken, written, hmoved, -⟩ := hok a after hrun
    rw [hrun] at h
    dsimp only at h
    cases hleftover : after.leftover with
    | some first =>
      rw [hleftover] at h
      obtain rfl := Except.error.inj h
      rcases hmoved.leftover first hleftover with hstart | hplace
      · cases hstart
      · exact .inr hplace
    | none =>
      rw [hleftover] at h
      cases hrest : leftoverFault none after.rest with
      | none => rw [hrest] at h; cases h
      | some first =>
        rw [hrest] at h
        obtain rfl := Except.error.inj h
        refine .inr ((place_of_leftoverFault hrest).mono ?_)
        have htrees : trees = taken ++ after.rest := hmoved.rest
        exact htrees ▸ List.sublist_append_right taken after.rest

/-- A parser that is run on all of some trees takes them all. -/
theorem Meets.of_runAll (hp : Meets p trees trees Q) {a : α}
    (h : runAll p trees scope = .ok a) : ∃ written, Q trees written a := by
  obtain ⟨-, hok⟩ := hp (List.suffix_refl trees) (start trees scope) rfl
  unfold runAll at h
  cases hrun : p.run (start trees scope) with
  | error fault => rw [hrun] at h; cases h
  | ok r =>
    obtain ⟨b, after⟩ := r
    obtain ⟨taken, written, hmoved, hq⟩ := hok b after hrun
    rw [hrun] at h
    dsimp only at h
    split at h
    · cases h
    · next hnone =>
      obtain rfl := Except.ok.inj h
      have hrest : after.rest = [] := by
        cases hafter : after.rest with
        | nil => rfl
        | cons tree rest =>
          rw [hafter] at hnone
          cases hleftover : after.leftover <;> rw [hleftover] at hnone <;> cases tree <;>
            cases hnone
      have htrees : trees = taken ++ after.rest := hmoved.rest
      rw [hrest, List.append_nil] at htrees
      exact ⟨written, htrees ▸ hq⟩

end

/-! ### Classes of parsers -/

/-- A parser that keeps to the places of the trees: it fails at one of them, and it writes something
that starts and ends where what it takes does. -/
class Located (p : Parser α) : Prop where
  meets : ∀ region trees, Meets p region trees fun taken written _ => SameEnds written taken

/-- A parser that keeps to the places and takes a tree at least. -/
class Advances (p : Parser α) : Prop where
  meets : ∀ region trees, Meets p region trees fun taken written _ =>
    SameEnds written taken ∧ taken ≠ []

/-- A parser that keeps to the places and writes something that ends where what it takes does; the
beginning may be left out. -/
class EndsLocated (p : Parser α) : Prop where
  meets : ∀ region trees, Meets p region trees fun taken written _ =>
    written.getLast?.map TokenTree.span = taken.getLast?.map TokenTree.span

instance (priority := low) Advances.located {p : Parser α} [h : Advances p] : Located p :=
  ⟨fun region trees => (h.meets region trees).mono fun _ _ _ _ => And.left⟩

instance (priority := low) Located.endsLocated {p : Parser α} [h : Located p] : EndsLocated p :=
  ⟨fun region trees => (h.meets region trees).mono fun _ _ _ _ => And.right⟩

theorem Copies.sameEnds {P : Tokens → α → Prop} {taken written : Tokens} {a : α}
    (h : Copies P taken written a) : SameEnds written taken :=
  h.1 ▸ .refl taken

section

variable {p : Parser α} {f : α → Parser β}

instance located_pure (a : α) : Located (pure a : Parser α) :=
  ⟨fun _ _ => .pure (.refl [])⟩

instance located_bind [hp : Located p] [hf : ∀ a, Located (f a)] : Located (p >>= f) :=
  ⟨fun region trees => (hp.meets region trees).bind fun _ _ a rest _ h =>
    ((hf a).meets region rest).mono fun _ _ _ _ => h.append⟩

/-- A value that is a pair is taken apart. -/
instance located_bind_pair {p : Parser (α × σ)} {f : α × σ → Parser β} [hp : Located p]
    [hf : ∀ a b, Located (f (a, b))] : Located (p >>= f) :=
  have : ∀ r, Located (f r) := fun r => hf r.1 r.2
  located_bind

/-- A value that may be missing is taken apart. -/
instance located_bind_option {p : Parser (Option α)} {f : Option α → Parser β} [hp : Located p]
    [hf : ∀ a, Located (f (some a))] [hnone : Located (f none)] : Located (p >>= f) :=
  have : ∀ r, Located (f r) := fun r => by
    cases r with
    | none => exact hnone
    | some a => exact hf a
  located_bind

instance located_map {f : α → β} [hp : Located p] : Located (f <$> p) :=
  ⟨fun region trees => (hp.meets region trees).map fun _ _ _ _ h => h⟩

instance located_discard [hp : Located p] : Located (discard p) :=
  located_map

instance located_ite {c : Prop} [Decidable c] {q : Parser α} [hp : Located p] [hq : Located q] :
    Located (if c then p else q) :=
  ⟨fun region trees => .ite (fun _ => hp.meets region trees) fun _ => hq.meets region trees⟩

instance located_recorded [hp : Located p] : Located (recorded p) :=
  ⟨fun region trees => (hp.meets region trees).recorded.mono fun _ _ _ _ h => h.2⟩

instance located_iterate {step : σ → Parser (σ ⊕ β)} [hstep : ∀ s, Located (step s)] (s : σ) :
    Located (iterate step s) := by
  refine ⟨fun region trees => Meets.iterate (R := fun _ taken written _ => SameEnds written taken)
    (fun s trees => ((hstep s).meets region trees).mono fun _ _ r _ h => ?_) s⟩
  cases r with
  | inl s' => exact fun _ _ _ h' => h.append h'
  | inr b => exact h

instance endsLocated_bind [hp : EndsLocated p] [hf : ∀ a, EndsLocated (f a)] :
    EndsLocated (p >>= f) :=
  ⟨fun region trees => (hp.meets region trees).bind fun _ _ a rest _ h =>
    ((hf a).meets region rest).mono fun _ _ _ _ h' => by
      rw [List.getLast?_append, List.getLast?_append, Option.map_or, Option.map_or, h, h']⟩

instance endsLocated_ite {c : Prop} [Decidable c] {q : Parser α} [hp : EndsLocated p]
    [hq : EndsLocated q] : EndsLocated (if c then p else q) :=
  ⟨fun region trees => .ite (fun _ => hp.meets region trees) fun _ => hq.meets region trees⟩

/-- What is rewritten does not matter where something follows it. -/
instance endsLocated_rewriting_bind {h : α → Tokens → Tokens} [hp : Located p]
    [hf : ∀ a, Advances (f a)] : EndsLocated (rewriting p h >>= f) :=
  ⟨fun region trees => (hp.meets region trees).rewriting.bind fun _ _ a rest _ _ =>
    ((hf a).meets region rest).mono fun _ _ _ _ ⟨hends, hne⟩ => by
      rw [List.getLast?_append_of_ne_nil _ hne, List.getLast?_append_of_ne_nil _ (hends.ne_nil hne),
        hends.2]⟩

instance advances_bind [hp : Advances p] [hf : ∀ a, EndsLocated (f a)] : Advances (p >>= f) :=
  ⟨fun region trees => (hp.meets region trees).bind fun taken written a rest _ ⟨hends, hne⟩ =>
    ((hf a).meets region rest).mono fun taken' written' _ _ hlast => by
      refine ⟨⟨?_, ?_⟩, List.append_ne_nil_of_left_ne_nil hne taken'⟩
      · rw [List.head?_append_of_ne_nil _ hne, List.head?_append_of_ne_nil _ (hends.ne_nil hne),
          hends.1]
      · rw [List.getLast?_append, List.getLast?_append, Option.map_or, Option.map_or, hends.2,
          hlast]⟩

instance advances_bind_right [hp : Located p] [hf : ∀ a, Advances (f a)] : Advances (p >>= f) :=
  ⟨fun region trees => (hp.meets region trees).bind fun _ _ a rest _ h =>
    ((hf a).meets region rest).mono fun _ _ _ _ => h.append_of_right_ne_nil⟩

/-- The trees that are skipped are there. -/
theorem Meets.skip_bind {n : Nat} {more : Unit → Parser β} {tree : TokenTree}
    {region after : Tokens} (hmore : ∀ u, Located (more u)) :
    Meets (Functor.discard (Parser.take (n + 1)) >>= more) region (tree :: after)
      fun taken written _ => SameEnds written taken ∧ taken ≠ [] := by
  refine meets_skip.bind fun taken written u rest _ h => ?_
  refine ((hmore u).meets region rest).mono fun _ _ _ _ => SameEnds.append_of_left_ne_nil ?_
  exact ⟨h.sameEnds, h.2 ▸ List.cons_ne_nil _ _⟩

instance advances_map {f : α → β} [hp : Advances p] : Advances (f <$> p) :=
  ⟨fun region trees => (hp.meets region trees).map fun _ _ _ _ h => h⟩

instance advances_discard [hp : Advances p] : Advances (discard p) :=
  advances_map

instance advances_ite {c : Prop} [Decidable c] {q : Parser α} [hp : Advances p] [hq : Advances q] :
    Advances (if c then p else q) :=
  ⟨fun region trees => .ite (fun _ => hp.meets region trees) fun _ => hq.meets region trees⟩

instance advances_within {d : Delimiter} [hp : Located p] : Advances (within d p) :=
  ⟨fun _ _ => (meets_within (Q := fun _ taken written _ => SameEnds written taken)
    fun inner => hp.meets inner inner).mono fun _ _ _ _ ⟨_, _, _, htaken, hwritten, _⟩ => by
      rw [htaken, hwritten]
      exact ⟨⟨rfl, rfl⟩, List.cons_ne_nil _ _⟩⟩

instance advances_iterate {step : σ → Parser (σ ⊕ β)} [hstep : ∀ s, Advances (step s)] (s : σ) :
    Advances (iterate step s) := by
  refine ⟨fun region trees => Meets.iterate
    (R := fun _ taken written _ => SameEnds written taken ∧ taken ≠ [])
    (fun s trees => ((hstep s).meets region trees).mono fun _ _ r _ h => ?_) s⟩
  cases r with
  | inl s' => exact fun _ _ _ h' => SameEnds.append_of_left_ne_nil h h'.1
  | inr b => exact h

theorem Meets.of_located [hp : Located p] {region trees : Tokens} :
    Meets p region trees fun taken written _ => SameEnds written taken :=
  hp.meets region trees

theorem Meets.of_advances [hp : Advances p] {region trees : Tokens} :
    Meets p region trees fun taken written _ => SameEnds written taken ∧ taken ≠ [] :=
  hp.meets region trees

theorem Located.bind [hp : Located p] (hf : ∀ a, Located (f a)) : Located (p >>= f) :=
  located_bind

theorem Advances.bind [hp : Advances p] (hf : ∀ a, Located (f a)) : Advances (p >>= f) :=
  advances_bind

theorem Advances.bind_right [hp : Located p] (hf : ∀ a, Advances (f a)) : Advances (p >>= f) :=
  advances_bind_right

/-- A parser that looks at the next tree does so by what the tree is. -/
instance (priority := low) located_rest_bind {f : Tokens → Parser β} [hnil : Located (f [])]
    [hident : ∀ text span after, Located (f (.ident text span :: after))]
    [hlifetime : ∀ text span after, Located (f (.lifetime text span :: after))]
    [hpunct : ∀ c joint span after, Located (f (.punct c joint span :: after))]
    [hliteral : ∀ text span after, Located (f (.literal text span :: after))]
    [hgroup : ∀ d inner span after, Located (f (.group d inner span :: after))] :
    Located (rest >>= f) := by
  have hf : ∀ trees, Located (f trees) := by
    intro trees
    cases trees with
    | nil => exact hnil
    | cons tree after =>
      cases tree with
      | ident text span => exact hident text span after
      | lifetime text span => exact hlifetime text span after
      | punct c joint span => exact hpunct c joint span after
      | literal text span => exact hliteral text span after
      | group d inner span => exact hgroup d inner span after
  exact ⟨fun region trees => .rest_bind ((hf trees).meets region trees)⟩

instance located_rest : Located rest :=
  ⟨fun _ trees => .of_ok trees id
    (fun _ hbefore => by rw [← hbefore]; rfl) (fun before _ => .refl _ before) (.refl [])⟩

instance located_atEnd : Located atEnd :=
  located_map (p := rest)

instance located_peek {test : Tokens → Bool} : Located (peek test) :=
  located_map (p := rest)

instance advances_fail {c : Complaint} : Advances (fail c : Parser α) :=
  ⟨fun _ _ => .fail⟩

instance advances_expected {what : String} : Advances (expected what : Parser α) :=
  ⟨fun _ _ => .expected⟩

instance located_take {n : Nat} : Located (take n) :=
  ⟨fun _ _ => .take (.refl _)⟩

instance located_punct {text : String} : Located (punct text) :=
  ⟨fun _ _ => meets_punct.mono fun _ _ _ _ h => h.sameEnds⟩

theorem advances_punct {text : String} (htext : text ≠ "") : Advances (punct text) := by
  refine ⟨fun _ trees => meets_punct.mono fun taken _ _ _ h => ⟨h.sameEnds, ?_⟩⟩
  obtain ⟨-, rfl, hfront⟩ := h
  cases trees with
  | nil =>
    unfold isPunct at hfront
    cases hchars : text.toList with
    | nil => exact absurd (String.toList_eq_nil_iff.mp hchars) htext
    | cons c cs => rw [hchars] at hfront; cases cs <;> cases hfront
  | cons tree rest =>
    have hlength : text.length ≠ 0 := fun h => htext (String.length_eq_zero_iff.mp h)
    obtain ⟨n, hn⟩ := Nat.exists_eq_succ_of_ne_zero hlength
    rw [hn]
    exact List.cons_ne_nil _ _

instance located_punct? {text : String} : Located (punct? text) :=
  ⟨fun _ _ => meets_punct?.mono fun _ _ _ _ h => h.sameEnds⟩

instance advances_word {text : String} : Advances (word text) :=
  ⟨fun _ _ => meets_word.mono fun _ _ _ _ h => ⟨h.sameEnds, h.2 ▸ List.cons_ne_nil _ _⟩⟩

instance located_word? {text : String} : Located (word? text) :=
  ⟨fun _ _ => meets_word?.mono fun _ _ _ _ h => h.sameEnds⟩

instance advances_ident : Advances ident :=
  ⟨fun _ _ => meets_ident.mono fun _ _ _ _ h => ⟨h.sameEnds, h.2 ▸ List.cons_ne_nil _ _⟩⟩

instance advances_anyName : Advances anyName :=
  ⟨fun _ _ => meets_anyName.mono fun _ _ _ _ h => ⟨h.sameEnds, h.2 ▸ List.cons_ne_nil _ _⟩⟩

instance advances_lifetime : Advances lifetime :=
  ⟨fun _ trees => meets_lifetime.mono fun _ _ _ _ h => ⟨h.sameEnds, h.2.1 ▸ by
    cases trees with
    | nil => cases h.2.2
    | cons tree rest => exact List.cons_ne_nil _ _⟩⟩

instance located_lifetime? : Located lifetime? :=
  ⟨fun _ _ => meets_lifetime?.mono fun _ _ _ _ h => h.sameEnds⟩

instance advances_anyGroup : Advances anyGroup :=
  ⟨fun _ _ => meets_anyGroup.mono fun _ _ _ _ h => ⟨h.sameEnds, h.2 ▸ List.cons_ne_nil _ _⟩⟩

/-- The items of a list with commas are at places of the trees, if each of them is. -/
theorem Meets.commaList {item : Parser α} (place : α → Span) {region trees : Tokens}
    (hitem : ∀ trees, Meets item region trees fun taken _ a => Place taken (place a)) :
    Meets (commaList item) region trees fun taken _ all => ∀ a ∈ all, Place taken (place a) := by
  refine .collect id (K := fun taken _ own => ∀ a ∈ own, Place taken (place a))
    fun done trees => ?_
  refine .atEnd_bind (.ite (fun _ => .pure ?_) fun _ => ?_)
  · exact ⟨[], (List.append_nil _).symm, List.forall_mem_nil _⟩
  · refine (hitem trees).bind fun taken _ a after _ ha => ?_
    refine .atEnd_bind (.ite (fun _ => .pure ?_) fun _ => ?_)
    · exact ⟨[a], List.reverse_cons, List.forall_mem_singleton.mpr ha.left⟩
    · refine meets_punct.bind_pure fun comma _ _ _ _ _ => ⟨a, rfl, fun taken' _ own hown => ?_⟩
      exact List.forall_mem_cons.mpr ⟨ha.left.left, fun b hb => (hown b hb).right⟩

instance located_commaList {item : Parser α} [hitem : Located item] : Located (commaList item) := by
  unfold commaList
  infer_instance

end

end RestClient.Code.Parser
