import RestClient.Proofs.Code.Places
import RestClient.Proofs.Code.Scanning

/-!
# The layout of a text

The trees that a text is read as stand in it one behind the other, and those in a group inside of
the group. This follows from two facts: tokens are found from the front of the text on, and a group
ends with a token that has been found behind the trees in it.

## Main definitions

- `IsRow` — tokens that stand one behind the other
- `LaidBetween` — trees laid out between two places
- `IsNest` — open groups whose trees are laid out up to a place

## Main results

- `isRow_of_lexemes` — the tokens of a text stand one behind the other
- `isLaidOut_of_read?` — the trees of a text are laid out
-/

namespace RestClient.Code

/-! ### Positions -/

namespace Position

variable {p : Position} {cs front : List Char}

theorem after_append (p : Position) (front cs : List Char) :
    p.after (front ++ cs) = (p.after front).after cs :=
  List.foldl_append

theorem lt_after_singleton (p : Position) (c : Char) : p < p.after [c] := by
  show p < if c = '\n' then ⟨p.line + 1, 0⟩ else ⟨p.line, p.column + 1⟩
  split
  · exact .inl (Nat.lt_succ_self _)
  · exact .inr ⟨rfl, Nat.lt_succ_self _⟩

theorem le_after (p : Position) (cs : List Char) : p ≤ p.after cs := by
  induction cs generalizing p with
  | nil => exact le_refl p
  | cons c cs ih => exact (lt_after_singleton p c).le.trans (ih (p.after [c]))

theorem lt_after (p : Position) (h : cs ≠ []) : p < p.after cs := by
  obtain ⟨c, cs, rfl⟩ := List.exists_cons_of_ne_nil h
  exact (lt_after_singleton p c).trans_le (le_after (p.after [c]) cs)

theorem column_after_pos {c : Char} (hc : c ≠ '\n') : 0 < (p.after (front ++ [c])).column := by
  rw [after_append]
  show 0 < (if c = '\n' then (⟨_, 0⟩ : Position) else ⟨_, (p.after front).column + 1⟩).column
  rw [if_neg hc]
  exact Nat.succ_pos _

end Position

/-! ### Tokens -/

/-- Tokens stand one behind the other from a place on; those behind which a group ends do not end at
the start of a line. -/
def IsRow : Position → List (Lexeme × Span) → Prop
  | _, [] => True
  | p, (lexeme, span) :: rest =>
    p ≤ span.start ∧ span.start < span.stop ∧ (lexeme.EndsGroup → 0 < span.stop.column) ∧
      IsRow span.stop rest

theorem isRow_of_lexemes {fuel : Nat} {p : Position} {cs : List Char}
    {found : List (Lexeme × Span)} (h : lexemes fuel p cs = some found) : IsRow p found := by
  induction fuel generalizing p cs found with
  | zero =>
    obtain rfl := Option.some.inj h
    trivial
  | succ fuel ih =>
    simp only [lexemes] at h
    split at h
    · obtain rfl := Option.some.inj h
      trivial
    · split at h
      · cases h
      · next lexeme rest hlexeme =>
        obtain ⟨others, hothers, rfl⟩ := Option.map_eq_some_iff.mp h
        obtain ⟨hlength, hends⟩ := length_lt_of_lexeme? hlexeme
        -- a token is what its rest is shorter by
        refine ⟨p.le_after _, Position.lt_after _ fun hnil => ?_, fun hgroup => ?_, ih hothers⟩
        · rw [List.take_eq_nil_iff] at hnil
          rcases hnil with hzero | hnil
          · omega
          · rw [hnil] at hlength
            cases hlength
        · obtain ⟨front, c, hfront, hc⟩ := hends hgroup
          have htake : (skipGaps cs).take ((skipGaps cs).length - rest.length) = front ++ [c] := by
            rw [hfront, ← List.singleton_append, ← List.append_assoc]
            refine List.take_left' ?_
            simp only [List.length_append]
            omega
          rw [htake]
          exact Position.column_after_pos hc

/-! ### Trees -/

/-- Trees are laid out between two places. -/
structure LaidBetween (p q : Position) (trees : Tokens) : Prop where
  laid : IsLaidOut trees
  start_le : ∀ tree ∈ trees, p ≤ tree.span.start
  le_stop : ∀ tree ∈ trees, tree.span.stop ≤ q

namespace LaidBetween

variable {p q r : Position} {trees more : Tokens}

theorem nil (p q : Position) : LaidBetween p q [] :=
  ⟨⟨fun _ h => (nomatch h), .nil⟩, fun _ h => (nomatch h), fun _ h => (nomatch h)⟩

theorem append (h : LaidBetween p q trees) (h' : LaidBetween q r more) (hpq : p ≤ q)
    (hqr : q ≤ r) : LaidBetween p r (trees ++ more) := by
  refine ⟨⟨fun tree htree => ?_, ?_⟩, fun tree htree => ?_, fun tree htree => ?_⟩
  · exact (List.mem_append.mp htree).elim (h.laid.laid tree) (h'.laid.laid tree)
  · refine List.pairwise_append.mpr ⟨h.laid.ordered, h'.laid.ordered, fun a ha b hb => ?_⟩
    have hbetween : a.span.stop ≤ b.span.start := (h.le_stop a ha).trans (h'.start_le b hb)
    exact ⟨(h.laid.laid a ha).start_lt_stop.le.trans hbetween,
      hbetween.trans (h'.laid.laid b hb).start_lt_stop.le⟩
  · exact (List.mem_append.mp htree).elim (h.start_le tree) fun hmem =>
      hpq.trans (h'.start_le tree hmem)
  · exact (List.mem_append.mp htree).elim (fun hmem => (h.le_stop tree hmem).trans hqr)
      (h'.le_stop tree)

theorem mono (h : LaidBetween p q trees) {p' q' : Position} (hp : p' ≤ p) (hq : q ≤ q') :
    LaidBetween p' q' trees :=
  ⟨h.laid, fun tree htree => hp.trans (h.start_le tree htree),
    fun tree htree => (h.le_stop tree htree).trans hq⟩

/-- Trees that all stand at the same place. -/
theorem of_span {s : Span} (h : ∀ tree ∈ trees, tree.IsLaid ∧ tree.span = s) :
    LaidBetween s.start s.stop trees := by
  refine ⟨⟨fun tree htree => (h tree htree).1, List.pairwise_of_forall_mem_list ?_⟩,
    fun tree htree => (h tree htree).2 ▸ le_refl _, fun tree htree => (h tree htree).2 ▸ le_refl _⟩
  intro a ha b hb
  rw [TokenTree.IsBefore, (h a ha).2, (h b hb).2]
  exact ⟨le_refl _, le_refl _⟩

theorem singleton {tree : TokenTree} (h : tree.IsLaid) :
    LaidBetween tree.span.start tree.span.stop [tree] := by
  refine .of_span fun other hother => ?_
  obtain rfl := List.mem_singleton.mp hother
  exact ⟨h, rfl⟩

/-- A group from one place to another around the trees between them. -/
theorem isLaid_group {d : Delimiter} (h : LaidBetween p q trees) (hpq : p < q)
    (hcolumn : 0 < q.column) : (TokenTree.group d trees ⟨p, q⟩).IsLaid :=
  .group hpq hcolumn h.laid.ordered h.laid.laid fun tree htree =>
    ⟨h.start_le tree htree, (h.laid.laid tree htree).start_lt_stop, h.le_stop tree htree⟩

/-- The trees of a documentation comment all stand where it does. -/
theorem docTokens {inner : Bool} {text : List Char} {s : Span} (hs : s.start < s.stop)
    (hcolumn : 0 < s.stop.column) : LaidBetween s.start s.stop (docTokens inner text s) := by
  have hpunct : ∀ c, (TokenTree.punct c false s).IsLaid :=
    fun c => .leaf (fun _ _ _ h => nomatch h) hs
  have hword : (TokenTree.ident "doc" s).IsLaid := .leaf (fun _ _ _ h => nomatch h) hs
  have hliteral : ∀ text, (TokenTree.literal text s).IsLaid :=
    fun text => .leaf (fun _ _ _ h => nomatch h) hs
  have hinner : LaidBetween s.start s.stop [.ident "doc" s, .punct '=' false s,
      .literal (String.ofList (Text.quote text)) s] := by
    refine .of_span fun tree htree => ?_
    simp only [List.mem_cons, List.not_mem_nil, or_false] at htree
    rcases htree with rfl | rfl | rfl
    · exact ⟨hword, rfl⟩
    · exact ⟨hpunct '=', rfl⟩
    · exact ⟨hliteral _, rfl⟩
  refine .of_span fun tree htree => ?_
  have hmark : tree = .punct '#' false s ∨ tree = .punct '!' false s ∨
      tree = .group .bracket [.ident "doc" s, .punct '=' false s,
        .literal (String.ofList (Text.quote text)) s] s := by
    cases inner with
    | true => simpa [Code.docTokens] using htree
    | false => exact (List.mem_pair.mp htree).imp_right .inr
  rcases hmark with rfl | rfl | rfl
  · exact ⟨hpunct '#', rfl⟩
  · exact ⟨hpunct '!', rfl⟩
  · exact ⟨hinner.isLaid_group hs hcolumn, rfl⟩

end LaidBetween

/-- The trees of the innermost group and of those around it are laid out up to a place. -/
def IsNest (origin : Position) : Position → List OpenGroup → Tokens → Prop
  | p, [], current => origin ≤ p ∧ LaidBetween origin p current.reverse
  | p, g :: groups, current =>
    g.start < p ∧ LaidBetween g.start p current.reverse ∧ IsNest origin g.start groups g.before

theorem IsNest.add {origin p q : Position} {groups : List OpenGroup} {current more : Tokens}
    (h : IsNest origin p groups current) (hpq : p ≤ q) (hmore : LaidBetween p q more) :
    IsNest origin q groups (more.reverse ++ current) := by
  have hreverse : (more.reverse ++ current).reverse = current.reverse ++ more := by
    rw [List.reverse_append, List.reverse_reverse]
  cases groups with
  | nil =>
    obtain ⟨horigin, hcurrent⟩ := h
    exact ⟨horigin.trans hpq, hreverse ▸ hcurrent.append hmore horigin hpq⟩
  | cons g groups =>
    obtain ⟨hstart, hcurrent, houter⟩ := h
    exact ⟨hstart.trans_le hpq, hreverse ▸ hcurrent.append hmore hstart.le hpq, houter⟩

theorem isLaidOut_of_treesOf {origin p : Position} {groups : List OpenGroup}
    {current trees : Tokens} {found : List (Lexeme × Span)}
    (h : treesOf groups current found = some trees) (hnest : IsNest origin p groups current)
    (hrow : IsRow p found) : IsLaidOut trees := by
  -- the nest is kept up to the end of the token that was read last
  induction found generalizing p groups current with
  | nil =>
    cases groups with
    | nil =>
      obtain rfl := Option.some.inj h
      exact hnest.2.laid
    | cons g groups => cases h
  | cons first found ih =>
    obtain ⟨lexeme, s⟩ := first
    obtain ⟨hp, hs, hends, hrow⟩ := hrow
    have hadd : ∀ more : Tokens, LaidBetween s.start s.stop more →
        treesOf groups (more.reverse ++ current) found = some trees → IsLaidOut trees :=
      fun more hmore h => ih h (hnest.add (hp.trans hs.le) (hmore.mono hp (le_refl _))) hrow
    have hleaf : ∀ tree : TokenTree, (∀ d inner span, tree ≠ .group d inner span) →
        tree.span = s → treesOf groups (tree :: current) found = some trees → IsLaidOut trees := by
      rintro tree htree rfl
      exact hadd [tree] (.singleton (.leaf htree hs))
    cases lexeme with
    | opening d =>
      refine ih h ⟨hs, .nil _ _, ?_⟩ hrow
      exact hnest.add hp (.nil _ _)
    | closing d =>
      cases groups with
      | nil => cases h
      | cons g groups =>
        simp only [treesOf] at h
        split at h
        · obtain ⟨hstart, hcurrent, houter⟩ := hnest
          have hstop : g.start < s.stop := (hstart.trans_le hp).trans hs
          have hgroup := (hcurrent.mono (le_refl _) (hp.trans hs.le)).isLaid_group (d := d) hstop
            (hends trivial)
          exact ih h (houter.add hstop.le (.singleton hgroup)) hrow
        · cases h
    | ident text => exact hleaf (.ident _ s) (fun _ _ _ h => nomatch h) rfl h
    | lifetime text => exact hleaf (.lifetime _ s) (fun _ _ _ h => nomatch h) rfl h
    | punct c joint => exact hleaf (.punct c joint s) (fun _ _ _ h => nomatch h) rfl h
    | literal text => exact hleaf (.literal _ s) (fun _ _ _ h => nomatch h) rfl h
    | doc inner text => exact hadd (docTokens inner text s) (.docTokens hs (hends trivial)) h

/-- The trees of a text are laid out. -/
theorem isLaidOut_of_read? {text : String} {trees : Tokens} (h : Tokens.read? text = some trees) :
    IsLaidOut trees := by
  have hall : ∀ start cs, (lexemes (cs.length + 1) start cs).bind (treesOf [] []) = some trees →
      IsLaidOut trees := by
    intro start cs h
    obtain ⟨found, hfound, htrees⟩ := Option.bind_eq_some_iff.mp h
    exact isLaidOut_of_treesOf htrees ⟨le_refl start, .nil start start⟩ (isRow_of_lexemes hfound)
  exact hall _ _ h

end RestClient.Code
