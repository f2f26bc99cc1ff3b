import RestClient.Proofs.Template.Cutting
import Mathlib.Algebra.Order.BigOperators.Group.List
import Mathlib.Algebra.Order.Group.Nat
import Mathlib.Data.List.Basic

/-!
# Placeholders inside open braces

The two cuts of a template agree except where a placeholder follows an opening brace that is still
open: there the group begins at the earlier brace, its text is no name, and the placeholder in it
gets no value.

## Main definitions

- `Template.HasNestedPlaceholder` — some placeholder follows an open brace
- `Piece.IsNested` — a group that hides a placeholder
-/

namespace RestClient.Template

/-- Some placeholder stands behind an opening brace that no brace has closed. -/
def HasNestedPlaceholder (template : List Char) : Prop :=
  ∃ before between name after,
    template = before ++ '{' :: (between ++ '{' :: (name ++ '}' :: after)) ∧
      '}' ∉ between ∧ isName name

/-- A group that ends in an opening brace and a name. -/
def Piece.IsNested : Piece → Prop
  | .char _ => False
  | .group text => ∃ between name, text = between ++ '{' :: name ∧ isName name

theorem Piece.IsNested.open_mem {text : List Char} (h : (Piece.group text).IsNested) :
    '{' ∈ text := by
  obtain ⟨between, name, rfl, _⟩ := h
  simp

/-! ### The cut at placeholders, piece by piece -/

/-- Behind a closing brace the cut at placeholders starts anew. -/
theorem placeholderPieces_append_close (a b : List Char) :
    placeholderPieces (a ++ '}' :: b) = placeholderPieces (a ++ ['}']) ++ placeholderPieces b := by
  -- a placeholder takes all its characters at once, so the induction is on the length
  induction hn : a.length using Nat.strong_induction_on generalizing a with
  | _ n ih =>
    cases a with
    | nil => simp [placeholderPieces_cons, placeholderAt?, placeholderPieces]
    | cons c a =>
      cases hp : placeholderAt? (c :: (a ++ '}' :: b)) with
      | none =>
        have hp' : placeholderAt? (c :: (a ++ ['}'])) = none := by
          rw [placeholderAt?_eq_none_iff] at hp ⊢
          intro name rest he
          apply hp name (rest ++ b)
          simpa using congrArg (· ++ b) he
        have ha := ih a.length (by simp [← hn]) a rfl
        simp only [List.cons_append]
        rw [placeholderPieces_cons hp, placeholderPieces_cons hp', ha, List.cons_append]
      | some found =>
        obtain ⟨name, rest⟩ := found
        obtain ⟨hname, he⟩ := placeholderAt?_eq_some_iff.mp hp
        obtain ⟨rfl, ht⟩ : c = '{' ∧ a ++ '}' :: b = name ++ '}' :: rest := List.cons.inj he
        rcases append_close_cases (close_not_mem_of_isName hname) ht with ⟨rfl, _⟩ | ⟨w, rfl, _⟩
        · have ha := placeholderPieces_placeholder hname []
          simp only [List.cons_append]
          rw [placeholderPieces_placeholder hname, ha]
          simp [placeholderPieces]
        · have hw := ih w.length (by simp [← hn]; omega) w rfl
          simp only [List.cons_append, List.append_assoc]
          rw [placeholderPieces_placeholder hname, placeholderPieces_placeholder hname, hw]
          rfl

/-- Text without a closing brace has no placeholder. -/
theorem placeholderPieces_of_close_not_mem {cs : List Char} (h : '}' ∉ cs) :
    placeholderPieces cs = cs.map .char := by
  fun_induction placeholderPieces cs with
  | case1 => rfl
  | case2 c cs name rest hp ih =>
    obtain ⟨_, he⟩ := placeholderAt?_eq_some_iff.mp hp
    simp [he] at h
  | case3 c cs hp ih => simp [ih (by simp_all)]

/-- A text up to its first closing brace, with a name before that brace. -/
theorem placeholderPieces_nested {a name : List Char} (ha : '}' ∉ a) (hn : isName name) :
    placeholderPieces (a ++ '{' :: (name ++ ['}'])) = a.map .char ++ [.group name] := by
  induction a with
  | nil =>
    have := placeholderPieces_placeholder hn []
    simpa [placeholderPieces] using this
  | cons c a ih =>
    have hp : placeholderAt? (c :: (a ++ '{' :: (name ++ ['}']))) = none := by
      rw [placeholderAt?_eq_none_iff]
      intro name' rest he hn'
      -- a name behind the front would reach over the inner brace
      have he : (a ++ '{' :: name) ++ '}' :: [] = name' ++ '}' :: rest := by
        simpa using (List.cons.inj he).2
      have hfront : '}' ∉ a ++ '{' :: name := by
        have := close_not_mem_of_isName hn
        simp_all
      have hopen := open_not_mem_of_isName hn'
      obtain ⟨rfl, _⟩ := append_close_inj hfront (close_not_mem_of_isName hn') he
      simp at hopen
    rw [List.cons_append, placeholderPieces_cons hp, ih (by simp_all)]
    rfl

/-- A text up to its first closing brace, with no name before that brace. -/
theorem placeholderPieces_plain {u : List Char} (hu : '}' ∉ u)
    (hn : ∀ a name, u = a ++ '{' :: name → ¬ isName name) :
    placeholderPieces (u ++ ['}']) = (u ++ ['}']).map .char := by
  induction u with
  | nil => simp [placeholderPieces_cons, placeholderAt?, placeholderPieces]
  | cons c u ih =>
    have hu' : '}' ∉ u := by simp_all
    have hp : placeholderAt? (c :: (u ++ ['}'])) = none := by
      rw [placeholderAt?_eq_none_iff]
      intro name rest he hname
      obtain ⟨rfl, ht⟩ : c = '{' ∧ u ++ ['}'] = name ++ '}' :: rest := List.cons.inj he
      obtain ⟨rfl, _⟩ := append_close_inj hu' (close_not_mem_of_isName hname) ht
      exact hn [] u rfl hname
    have hrest : ∀ a name, u = a ++ '{' :: name → ¬ isName name := by
      rintro a name rfl
      exact hn (c :: a) name rfl
    rw [List.cons_append, placeholderPieces_cons hp, ih hu' hrest]
    rfl

/-- The cut at placeholders goes on inside the groups and never across their ends. -/
theorem placeholderPieces_eq_flatMap_pieces (template : List Char) :
    placeholderPieces template = (pieces template).flatMap fun p => placeholderPieces p.text := by
  have hchar : ∀ c, placeholderPieces [c] = [.char c] := by
    intro c
    have hp : placeholderAt? [c] = none := by
      rw [placeholderAt?_eq_none_iff]
      intro name rest he
      simp at he
    rw [placeholderPieces_cons hp, placeholderPieces]
  fun_induction pieces template with
  | case1 => simp [placeholderPieces]
  | case2 cs text rest h ih =>
    obtain ⟨rfl, _⟩ := splitAtClose?_eq_some_iff.mp h
    have hcut := placeholderPieces_append_close ('{' :: text) rest
    simpa [Piece.text, ih] using hcut
  | case3 cs h =>
    have hc : '}' ∉ '{' :: cs := by simpa using splitAtClose?_eq_none_iff.mp h
    rw [placeholderPieces_of_close_not_mem hc]
    rw [List.flatMap_map]
    simp only [Piece.text, hchar, List.map_eq_flatMap]
  | case4 c cs hc ih =>
    have hp : placeholderAt? (c :: cs) = none := by simp [placeholderAt?, hc]
    rw [placeholderPieces_cons hp, List.flatMap_cons, ← ih]
    simp [Piece.text, hchar]

/-! ### Groups that hide a placeholder -/

theorem HasNestedPlaceholder.close_mem {template : List Char}
    (h : HasNestedPlaceholder template) : '}' ∈ template := by
  obtain ⟨before, between, name, after, rfl, _, _⟩ := h
  simp

theorem HasNestedPlaceholder.of_cons {c : Char} {cs : List Char} (hc : c ≠ '{')
    (h : HasNestedPlaceholder (c :: cs)) : HasNestedPlaceholder cs := by
  obtain ⟨before, between, name, after, ht, hb, hn⟩ := h
  cases before with
  | nil => exact absurd (List.cons.inj ht).1 hc
  | cons d before => exact ⟨before, between, name, after, (List.cons.inj ht).2, hb, hn⟩

/-- A placeholder behind an open brace stands in the first group, or behind it. -/
theorem HasNestedPlaceholder.of_group {text rest : List Char} (hc : '}' ∉ text)
    (h : HasNestedPlaceholder ('{' :: (text ++ '}' :: rest))) :
    (Piece.group text).IsNested ∨ HasNestedPlaceholder rest := by
  obtain ⟨before, between, name, after, ht, hb, hn⟩ := h
  have hg : '}' ∉ '{' :: text := by simpa using hc
  have htail : '}' ∉ '{' :: (between ++ '{' :: name) := by
    have := close_not_mem_of_isName hn
    simp_all
  have ht : (before ++ '{' :: (between ++ '{' :: name)) ++ '}' :: after =
      ('{' :: text) ++ '}' :: rest := by
    simpa using ht.symm
  -- the placeholder ends where the group does, or behind it
  rcases append_close_cases hg ht with ⟨he, _⟩ | ⟨w, he, hrest⟩
  · left
    cases before with
    | nil => exact ⟨between, name, (List.cons.inj he).2.symm, hn⟩
    | cons d before =>
      refine ⟨before ++ '{' :: between, name, ?_, hn⟩
      simpa using (List.cons.inj he).2.symm
  · right
    rcases List.append_eq_append_iff.mp he with ⟨v, _, hv⟩ | ⟨v, _, hv⟩
    · rw [hv] at htail
      simp at htail
    · cases v with
      | nil => simp at hv
      | cons d v =>
        obtain rfl : w = v ++ '{' :: (between ++ '{' :: name) := (List.cons.inj hv).2
        exact ⟨v, between, name, after, by simp [hrest], hb, hn⟩

/-- A placeholder behind an open brace is one that a group hides, and the other way round. -/
theorem hasNestedPlaceholder_iff (template : List Char) :
    HasNestedPlaceholder template ↔ ∃ p ∈ pieces template, p.IsNested := by
  constructor
  · intro h
    fun_induction pieces template with
    | case1 => exact absurd h.close_mem (by simp)
    | case2 cs text rest hs ih =>
      obtain ⟨rfl, hc⟩ := splitAtClose?_eq_some_iff.mp hs
      rcases h.of_group hc with hg | hr
      · exact ⟨.group text, by simp, hg⟩
      · obtain ⟨p, hp, hnest⟩ := ih hr
        exact ⟨p, by simp [hp], hnest⟩
    | case3 cs hs =>
      have hc : '}' ∉ '{' :: cs := by simpa using splitAtClose?_eq_none_iff.mp hs
      exact absurd h.close_mem hc
    | case4 c cs hc ih =>
      obtain ⟨p, hp, hnest⟩ := ih (h.of_cons hc)
      exact ⟨p, by simp [hp], hnest⟩
  · rintro ⟨p, hp, hnest⟩
    cases p with
    | char c => exact absurd hnest (by simp [Piece.IsNested])
    | group text =>
      have hc := close_not_mem_of_group_mem hp
      obtain ⟨between, name, rfl, hn⟩ := hnest
      obtain ⟨front, back, hsplit⟩ := List.append_of_mem hp
      have ht := flatMap_text_pieces template
      rw [hsplit] at ht
      refine ⟨front.flatMap Piece.text, between, name, back.flatMap Piece.text, ?_, ?_, hn⟩
      · simp [← ht, Piece.text]
      · simp_all

/-! ### Values in both cuts -/

variable {template : List Char} {values : List (List Char × List Char)}

theorem filled_eq_flatMap_pieces (template : List Char) (values : List (List Char × List Char)) :
    filled template values = (pieces template).flatMap fun p => filled p.text values := by
  rw [filled, placeholderPieces_eq_flatMap_pieces, List.flatMap_assoc]
  rfl

theorem fill_char_map (values : List (List Char × List Char)) (cs : List Char) :
    (cs.map Piece.char).flatMap (Piece.fill values) = cs := by
  simp [List.flatMap_map, Piece.fill]

theorem lookup?_eq_none_of_not_mem {name : List Char} (h : name ∉ values.map (·.1)) :
    lookup? values name = none := by
  simp only [lookup?, Option.map_eq_none_iff, List.find?_eq_none]
  rintro ⟨n, v⟩ hm he
  apply h
  rw [List.mem_map]
  exact ⟨(n, v), hm, by simpa using he⟩

theorem lookup?_eq_some_of_mem {name value : List Char} (hnodup : (values.map (·.1)).Nodup)
    (h : (name, value) ∈ values) : lookup? values name = some value := by
  induction values with
  | nil => simp at h
  | cons entry values ih =>
    obtain ⟨hfirst, hnodup⟩ := List.nodup_cons.mp hnodup
    rcases List.mem_cons.mp h with rfl | hm
    · simp [lookup?]
    · have hne : entry.1 ≠ name := by
        rintro rfl
        exact hfirst (List.mem_map.mpr ⟨_, hm, rfl⟩)
      have hrest := ih hnodup hm
      simp only [lookup?] at hrest ⊢
      rw [List.find?_cons_of_neg (by simpa using hne)]
      exact hrest

/-- A group that hides no placeholder gets its value in both cuts, or in none. -/
theorem fill_eq_filled {p : Piece} (hp : p ∈ pieces template) (hnest : ¬ p.IsNested)
    (hv : ∀ name ∈ values.map (·.1), isName name) : p.fill values = filled p.text values := by
  cases p with
  | char c =>
    have hat : placeholderAt? [c] = none := by
      rw [placeholderAt?_eq_none_iff]
      intro name rest he
      simp at he
    simp [filled, Piece.text, placeholderPieces_cons hat, placeholderPieces, Piece.fill]
  | group text =>
    have hc := close_not_mem_of_group_mem hp
    by_cases hn : isName text
    · have hat := placeholderPieces_placeholder hn []
      have ht : (Piece.group text).text = '{' :: (text ++ ['}']) := rfl
      rw [filled, ht, hat]
      simp [placeholderPieces]
    · have hplain : ∀ a name, '{' :: text = a ++ '{' :: name → ¬ isName name := by
        intro a name he hname
        cases a with
        | nil =>
          obtain rfl : text = name := (List.cons.inj he).2
          exact hn hname
        | cons d a => exact hnest ⟨a, name, (List.cons.inj he).2, hname⟩
      have hnone : lookup? values text = none :=
        lookup?_eq_none_of_not_mem fun hm => hn (hv text hm)
      have ht : (Piece.group text).text = ('{' :: text) ++ ['}'] := rfl
      rw [Piece.fill, hnone, filled, ht, placeholderPieces_plain (by simpa using hc) hplain,
        fill_char_map]
      rfl

/-- A group that hides a placeholder keeps a brace that the value of the placeholder replaces. -/
theorem count_filled_lt_of_nested {p : Piece} (hp : p ∈ pieces template) (hnest : p.IsNested)
    (hv : (values.map (·.1)).Perm (placeholders template))
    (hopen : ∀ entry ∈ values, '{' ∉ entry.2) :
    (filled p.text values).count '{' < (p.fill values).count '{' := by
  cases p with
  | char c => exact absurd hnest (by simp [Piece.IsNested])
  | group text =>
    have hc := close_not_mem_of_group_mem hp
    obtain ⟨between, name, rfl, hn⟩ := hnest
    have hcut : placeholderPieces (Piece.group (between ++ '{' :: name)).text =
        ('{' :: between).map .char ++ [.group name] := by
      have hb : '}' ∉ '{' :: between := by simp_all
      have := placeholderPieces_nested hb hn
      simpa [Piece.text] using this
    have hlisted : name ∈ values.map (·.1) := by
      rw [hv.mem_iff, ← group_mem_placeholderPieces, placeholderPieces_eq_flatMap_pieces,
        List.mem_flatMap]
      exact ⟨_, hp, by simp [hcut]⟩
    have hvalue : '{' ∉ (Piece.group name).fill values := by
      obtain ⟨⟨_, value⟩, hm, rfl⟩ := List.mem_map.mp hlisted
      have hfound := lookup?_eq_some_of_mem (hv.nodup_iff.mpr (nodup_placeholders _)) hm
      rw [Piece.fill, hfound]
      exact hopen _ hm
    -- the text of the whole group is no name, so it gets no value
    have hnone : lookup? values (between ++ '{' :: name) = none := by
      apply lookup?_eq_none_of_not_mem
      intro hm
      have := isName_of_group_mem (group_mem_placeholderPieces.mpr (hv.mem_iff.mp hm))
      have := open_not_mem_of_isName this
      simp at this
    rw [filled, hcut, List.flatMap_append, fill_char_map, Piece.fill, hnone]
    simp [Piece.text, List.count_eq_zero_of_not_mem hvalue]

/-- Where no placeholder follows an open brace, every one of them gets its value. -/
theorem substitute_eq_filled (hnest : ¬ HasNestedPlaceholder template)
    (hv : (values.map (·.1)).Perm (placeholders template)) :
    substitute template values = filled template values := by
  rw [hasNestedPlaceholder_iff] at hnest
  have hnames : ∀ name ∈ values.map (·.1), isName name := fun name hm =>
    isName_of_group_mem (group_mem_placeholderPieces.mpr (hv.mem_iff.mp hm))
  rw [filled_eq_flatMap_pieces, substitute]
  exact List.flatMap_congr fun p hp => fill_eq_filled hp (fun h => hnest ⟨p, hp, h⟩) hnames

/-- Where a placeholder follows an open brace, that brace is left over in the address. -/
theorem count_filled_lt (hnest : HasNestedPlaceholder template)
    (hv : (values.map (·.1)).Perm (placeholders template))
    (hopen : ∀ entry ∈ values, '{' ∉ entry.2) :
    (filled template values).count '{' < (substitute template values).count '{' := by
  have hnames : ∀ name ∈ values.map (·.1), isName name := fun name hm =>
    isName_of_group_mem (group_mem_placeholderPieces.mpr (hv.mem_iff.mp hm))
  rw [filled_eq_flatMap_pieces, substitute, List.count_flatMap, List.count_flatMap]
  apply List.sum_lt_sum
  · intro p hp
    by_cases h : p.IsNested
    · exact (count_filled_lt_of_nested hp h hv hopen).le
    · exact (congrArg (List.count '{') (fill_eq_filled hp h hnames)).ge
  · obtain ⟨p, hp, h⟩ := (hasNestedPlaceholder_iff template).mp hnest
    exact ⟨p, hp, count_filled_lt_of_nested hp h hv hopen⟩

end RestClient.Template
