import Mathlib.Data.List.Basic
import Mathlib.Order.Basic
import RestClient.Code.Token

/-!
# Places in trees

What can be pointed at in some trees: a row of trees, the head of a tree, the delimiter that closes
a group, and everything of the kind in a group. Where trees are laid out as in a text, one behind
the other, each of these is a piece of the text that the trees cover, and none of them is empty.

What is written for some trees need not be these trees, but it starts and ends where they do, and
so it is at the same place.

## Main definitions

- `Span.IsPieceOf` — non-empty pieces of a text
- `Place` — the places in some trees
- `IsLaidOut` — trees as they stand in a text
- `SameEnds` — trees that start and end where others do

## Main results

- `Place.isPieceOf` — every place in trees of a text is a piece of it
- `SameEnds.spanOf_eq` — trees with the same ends are at the same place
-/

namespace RestClient.Code

/-! ### Positions and pieces -/

/-- Positions in the order of the text. -/
instance : Preorder Position where
  le p q := p.line < q.line ∨ p.line = q.line ∧ p.column ≤ q.column
  lt p q := p.line < q.line ∨ p.line = q.line ∧ p.column < q.column
  le_refl p := .inr ⟨rfl, Nat.le_refl _⟩
  le_trans p q r hpq hqr := by omega
  lt_iff_le_not_ge p q := by omega

theorem Position.le_def {p q : Position} :
    p ≤ q ↔ p.line < q.line ∨ p.line = q.line ∧ p.column ≤ q.column :=
  Iff.rfl

theorem Position.lt_def {p q : Position} :
    p < q ↔ p.line < q.line ∨ p.line = q.line ∧ p.column < q.column :=
  Iff.rfl

namespace Span

/-- A piece of a text that has at least one character. -/
structure IsPieceOf (s whole : Span) : Prop where
  start_le : whole.start ≤ s.start
  start_lt_stop : s.start < s.stop
  stop_le : s.stop ≤ whole.stop

variable {s t whole : Span}

theorem IsPieceOf.trans (hs : s.IsPieceOf t) (ht : t.IsPieceOf whole) : s.IsPieceOf whole :=
  ⟨ht.start_le.trans hs.start_le, hs.start_lt_stop, hs.stop_le.trans ht.stop_le⟩

theorem not_nowhere_isPieceOf : ¬ nowhere.IsPieceOf whole :=
  fun h => lt_irrefl _ h.start_lt_stop

theorem firstChar_isPieceOf (h : s.start < s.stop) : s.firstChar.IsPieceOf s := by
  rw [Position.lt_def] at h
  refine ⟨le_refl _, .inr ⟨rfl, Nat.lt_succ_self _⟩, ?_⟩
  rw [Position.le_def]
  dsimp only [firstChar]
  omega

theorem lastChar_isPieceOf (h : s.start < s.stop) (hcolumn : 0 < s.stop.column) :
    s.lastChar.IsPieceOf s := by
  rw [Position.lt_def] at h
  refine ⟨?_, .inr ⟨rfl, Nat.sub_lt hcolumn Nat.one_pos⟩, le_refl _⟩
  rw [Position.le_def]
  dsimp only [lastChar]
  omega

end Span

/-! ### The place of several trees -/

theorem spanOf_eq_through {trees : Tokens} (h : trees ≠ []) :
    spanOf trees = (trees.head h).span.through (trees.getLast h).span := by
  obtain ⟨first, rest, rfl⟩ := List.exists_cons_of_ne_nil h
  cases rest with
  | nil => rfl
  | cons second rest =>
    simp only [spanOf, List.head_cons, List.getLast?_eq_some_getLast (List.cons_ne_nil second rest),
      Option.getD_some, List.getLast_cons (List.cons_ne_nil second rest)]

theorem spanOf_singleton (tree : TokenTree) : spanOf [tree] = tree.span :=
  rfl

theorem spanOf_cons {tree : TokenTree} {trees : Tokens} (h : trees ≠ []) :
    spanOf (tree :: trees) = tree.span.through (spanOf trees) := by
  rw [spanOf_eq_through (List.cons_ne_nil tree trees), spanOf_eq_through h, List.getLast_cons h]
  rfl

/-- Trees that start and end where others do. -/
def SameEnds (written taken : Tokens) : Prop :=
  written.head?.map TokenTree.span = taken.head?.map TokenTree.span ∧
    written.getLast?.map TokenTree.span = taken.getLast?.map TokenTree.span

namespace SameEnds

variable {written written' taken taken' : Tokens}

theorem refl (trees : Tokens) : SameEnds trees trees :=
  ⟨rfl, rfl⟩

theorem append (h : SameEnds written taken) (h' : SameEnds written' taken') :
    SameEnds (written ++ written') (taken ++ taken') := by
  obtain ⟨hhead, hlast⟩ := h
  obtain ⟨hhead', hlast'⟩ := h'
  refine ⟨?_, ?_⟩
  · rw [List.head?_append, List.head?_append, Option.map_or, Option.map_or, hhead, hhead']
  · rw [List.getLast?_append, List.getLast?_append, Option.map_or, Option.map_or, hlast, hlast']

theorem eq_nil_iff (h : SameEnds written taken) : written = [] ↔ taken = [] := by
  rw [← List.head?_eq_none_iff, ← List.head?_eq_none_iff, ← Option.map_eq_none_iff, h.1,
    Option.map_eq_none_iff]

theorem ne_nil (h : SameEnds written taken) (hne : taken ≠ []) : written ≠ [] :=
  fun hnil => hne (h.eq_nil_iff.mp hnil)

theorem append_of_left_ne_nil (h : SameEnds written taken ∧ taken ≠ [])
    (h' : SameEnds written' taken') :
    SameEnds (written ++ written') (taken ++ taken') ∧ taken ++ taken' ≠ [] :=
  ⟨h.1.append h', List.append_ne_nil_of_left_ne_nil h.2 taken'⟩

theorem append_of_right_ne_nil (h : SameEnds written taken)
    (h' : SameEnds written' taken' ∧ taken' ≠ []) :
    SameEnds (written ++ written') (taken ++ taken') ∧ taken ++ taken' ≠ [] :=
  ⟨h.append h'.1, List.append_ne_nil_of_right_ne_nil taken h'.2⟩

/-- What stands between two ends does not matter. -/
theorem between (h : SameEnds written taken) (hne : taken ≠ []) (middle middle' : Tokens)
    (h' : SameEnds written' taken') (hne' : taken' ≠ []) :
    SameEnds (written ++ (middle ++ written')) (taken ++ (middle' ++ taken')) := by
  refine ⟨?_, ?_⟩
  · rw [List.head?_append_of_ne_nil _ (h.ne_nil hne), List.head?_append_of_ne_nil _ hne, h.1]
  · rw [← List.append_assoc, ← List.append_assoc,
      List.getLast?_append_of_ne_nil _ (h'.ne_nil hne'), List.getLast?_append_of_ne_nil _ hne',
      h'.2]

theorem spanOf_eq (h : SameEnds written taken) : spanOf written = spanOf taken := by
  by_cases hnil : taken = []
  · rw [h.eq_nil_iff.mpr hnil, hnil]
  · have hnil' : written ≠ [] := h.ne_nil hnil
    obtain ⟨hhead, hlast⟩ := h
    rw [List.head?_eq_some_head hnil, List.head?_eq_some_head hnil', Option.map_some,
      Option.map_some] at hhead
    rw [List.getLast?_eq_some_getLast hnil, List.getLast?_eq_some_getLast hnil', Option.map_some,
      Option.map_some] at hlast
    rw [spanOf_eq_through hnil, spanOf_eq_through hnil', Option.some.inj hhead,
      Option.some.inj hlast]

end SameEnds

/-! ### Places -/

/-- What can be pointed at in some trees. -/
inductive Place : Tokens → Span → Prop
  | row {row trees : Tokens} (hne : row ≠ []) (h : row.Sublist trees) : Place trees (spanOf row)
  | head {tree : TokenTree} {trees : Tokens} (h : tree ∈ trees) : Place trees tree.headSpan
  | closing {d : Delimiter} {inner trees : Tokens} {span : Span}
      (h : .group d inner span ∈ trees) : Place trees span.lastChar
  | inside {d : Delimiter} {inner trees : Tokens} {span s : Span}
      (h : .group d inner span ∈ trees) (hs : Place inner s) : Place trees s

namespace Place

variable {trees more : Tokens} {s : Span}

theorem mono (h : Place trees s) (hsub : trees.Sublist more) : Place more s := by
  cases h with
  | row hne hrow => exact .row hne (hrow.trans hsub)
  | head hmem => exact .head (hsub.subset hmem)
  | closing hmem => exact .closing (hsub.subset hmem)
  | inside hmem hs => exact .inside (hsub.subset hmem) hs

theorem left (h : Place trees s) : Place (trees ++ more) s :=
  h.mono (List.sublist_append_left trees more)

theorem right (h : Place trees s) : Place (more ++ trees) s :=
  h.mono (List.sublist_append_right more trees)

theorem all (hne : trees ≠ []) : Place trees (spanOf trees) :=
  .row hne (.refl trees)

theorem tree {t : TokenTree} (h : t ∈ trees) : Place trees t.span :=
  .row (List.cons_ne_nil t []) (List.singleton_sublist.mpr h)

theorem ne_nil (h : Place trees s) : trees ≠ [] := by
  rintro rfl
  cases h with
  | row hne hrow => exact hne (List.sublist_nil.mp hrow)
  | head hmem => cases hmem
  | closing hmem => cases hmem
  | inside hmem => cases hmem

end Place

namespace SameEnds

variable {written taken : Tokens}

theorem place (h : SameEnds written taken) (hne : taken ≠ []) : Place taken (spanOf written) := by
  rw [h.spanOf_eq]
  exact .all hne

theorem place_first (h : SameEnds written taken) (hne : taken ≠ []) :
    Place taken (spanOf (written.take 1)) := by
  obtain ⟨tree, rest, rfl⟩ := List.exists_cons_of_ne_nil (h.ne_nil hne)
  obtain ⟨first, others, rfl⟩ := List.exists_cons_of_ne_nil hne
  have hspan : tree.span = first.span := Option.some.inj h.1
  show Place (first :: others) tree.span
  rw [hspan]
  exact .tree List.mem_cons_self

theorem place_last (h : SameEnds written taken) (hne : taken ≠ []) :
    Place taken (spanOf (written.drop (written.length - 1))) := by
  have hne' := h.ne_nil hne
  have hspan := h.2
  rw [List.getLast?_eq_some_getLast hne, List.getLast?_eq_some_getLast hne', Option.map_some,
    Option.map_some, Option.some.injEq] at hspan
  have hdrop : written.drop (written.length - 1) = [written.getLast hne'] := by
    calc written.drop (written.length - 1)
        = (written.dropLast ++ [written.getLast hne']).drop (written.length - 1) := by
          rw [List.dropLast_append_getLast hne']
      _ = [written.getLast hne'] := List.drop_left' List.length_dropLast
  rw [hdrop, spanOf_singleton, hspan]
  exact .tree (List.getLast_mem hne)

end SameEnds

/-! ### Trees in a text -/

/-- One tree starts and ends no later than another. -/
def TokenTree.IsBefore (a b : TokenTree) : Prop :=
  a.span.start ≤ b.span.start ∧ a.span.stop ≤ b.span.stop

/-- A tree as it stands in a text: it has a character at least, and the trees in a group stand one
behind the other inside of it, before a delimiter that is on the line where the group ends. -/
inductive TokenTree.IsLaid : TokenTree → Prop
  | leaf {tree : TokenTree} (hleaf : ∀ d inner span, tree ≠ .group d inner span)
      (h : tree.span.start < tree.span.stop) : IsLaid tree
  | group {d : Delimiter} {inner : Tokens} {span : Span} (h : span.start < span.stop)
      (hclosing : 0 < span.stop.column) (hordered : inner.Pairwise IsBefore)
      (hinner : ∀ tree ∈ inner, tree.IsLaid) (hwithin : ∀ tree ∈ inner, tree.span.IsPieceOf span) :
      IsLaid (.group d inner span)

/-- Trees as they stand in a text, one behind the other. -/
structure IsLaidOut (trees : Tokens) : Prop where
  laid : ∀ tree ∈ trees, tree.IsLaid
  ordered : trees.Pairwise TokenTree.IsBefore

theorem TokenTree.IsLaid.start_lt_stop {tree : TokenTree} (h : tree.IsLaid) :
    tree.span.start < tree.span.stop := by
  cases h with
  | leaf _ h => exact h
  | group h => exact h

theorem TokenTree.IsLaid.headSpan_isPieceOf {tree : TokenTree} (h : tree.IsLaid) :
    tree.headSpan.IsPieceOf tree.span := by
  have hself : tree.span.IsPieceOf tree.span := ⟨le_refl _, h.start_lt_stop, le_refl _⟩
  have hfirst := Span.firstChar_isPieceOf h.start_lt_stop
  cases tree with
  | ident => exact hself
  | punct => exact hself
  | literal => exact hself
  | lifetime => exact hfirst
  | group => exact hfirst

namespace IsLaidOut

variable {trees row : Tokens}

theorem of_sublist (h : IsLaidOut trees) (hrow : row.Sublist trees) : IsLaidOut row :=
  ⟨fun tree htree => h.laid tree (hrow.subset htree), h.ordered.sublist hrow⟩

theorem of_group (h : IsLaidOut trees) {d : Delimiter} {inner : Tokens} {span : Span}
    (hmem : .group d inner span ∈ trees) : IsLaidOut inner := by
  cases h.laid _ hmem with
  | leaf hleaf => exact absurd rfl (hleaf d inner span)
  | group _ _ hordered hinner _ => exact ⟨hinner, hordered⟩

theorem head_le (h : IsLaidOut trees) (hne : trees ≠ []) {tree : TokenTree}
    (htree : tree ∈ trees) : (trees.head hne).span.start ≤ tree.span.start := by
  obtain ⟨first, rest, rfl⟩ := List.exists_cons_of_ne_nil hne
  rcases List.mem_cons.mp htree with rfl | hrest
  · exact le_refl _
  · exact ((List.pairwise_cons.mp h.ordered).1 tree hrest).1

theorem le_getLast (h : IsLaidOut trees) (hne : trees ≠ []) {tree : TokenTree}
    (htree : tree ∈ trees) : tree.span.stop ≤ (trees.getLast hne).span.stop := by
  have hsplit := List.dropLast_append_getLast hne
  have hordered := h.ordered
  rw [← hsplit] at htree hordered
  rcases List.mem_append.mp htree with hfront | hlast
  · exact ((List.pairwise_append.mp hordered).2.2 tree hfront _ (List.mem_singleton_self _)).2
  · rw [List.mem_singleton.mp hlast]

/-- A row of trees in a text is a piece of what the trees cover. -/
theorem spanOf_isPieceOf (h : IsLaidOut trees) (hne : row ≠ []) (hrow : row.Sublist trees) :
    (spanOf row).IsPieceOf (spanOf trees) := by
  have hne' : trees ≠ [] := by
    rintro rfl
    exact hne (List.sublist_nil.mp hrow)
  have hlaid := h.of_sublist hrow
  rw [spanOf_eq_through hne, spanOf_eq_through hne']
  refine ⟨h.head_le hne' (hrow.subset (List.head_mem hne)), ?_,
    h.le_getLast hne' (hrow.subset (List.getLast_mem hne))⟩
  exact (hlaid.laid _ (List.head_mem hne)).start_lt_stop.trans_le
    (hlaid.le_getLast hne (List.head_mem hne))

theorem span_isPieceOf (h : IsLaidOut trees) {tree : TokenTree} (htree : tree ∈ trees) :
    tree.span.IsPieceOf (spanOf trees) :=
  h.spanOf_isPieceOf (List.cons_ne_nil tree []) (List.singleton_sublist.mpr htree)

end IsLaidOut

/-- Whatever can be pointed at in trees of a text is a piece of what the trees cover. -/
theorem Place.isPieceOf {trees : Tokens} {s : Span} (h : Place trees s) (hlaid : IsLaidOut trees) :
    s.IsPieceOf (spanOf trees) := by
  induction h with
  | row hne hrow => exact hlaid.spanOf_isPieceOf hne hrow
  | head hmem => exact (hlaid.laid _ hmem).headSpan_isPieceOf.trans (hlaid.span_isPieceOf hmem)
  | @closing d inner trees span hmem =>
    have hpiece := hlaid.span_isPieceOf hmem
    cases hlaid.laid _ hmem with
    | leaf hleaf => exact absurd rfl (hleaf d inner span)
    | group hspan hclosing => exact (Span.lastChar_isPieceOf hspan hclosing).trans hpiece
  | @inside d inner trees span s hmem hs ih =>
    have hpiece := hlaid.span_isPieceOf hmem
    cases hlaid.laid _ hmem with
    | leaf hleaf => exact absurd rfl (hleaf d inner span)
    | group _ _ hordered hinner hwithin =>
      have hne := hs.ne_nil
      have hcover : (spanOf inner).IsPieceOf span := by
        have hself := IsLaidOut.spanOf_isPieceOf ⟨hinner, hordered⟩ hne (.refl inner)
        rw [spanOf_eq_through hne] at hself ⊢
        exact ⟨(hwithin _ (List.head_mem hne)).start_le, hself.start_lt_stop,
          (hwithin _ (List.getLast_mem hne)).stop_le⟩
      exact ((ih ⟨hinner, hordered⟩).trans hcover).trans hpiece

end RestClient.Code
