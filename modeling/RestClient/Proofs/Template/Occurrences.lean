import RestClient.Interface.MethodAnalysis
import RestClient.Proofs.Template.Cutting
import Mathlib.Data.List.Nodup
import Mathlib.Data.List.Perm.Subperm

/-!
# Placeholders as parts of a text

The scan for placeholders finds exactly the names that stand between braces somewhere in a text,
whatever other braces are around them. So a search in the query of a template finds the placeholders
that stand behind its first question mark, and the check of a template against names compares the
names with all of its placeholders.

## Main definitions

- `Template.HasPlaceholder` — a name between braces, somewhere in a text

## Main results

- `Template.mem_placeholders` — what the scan finds
- `checkPlaceholders_eq_ok` — which names a template accepts
-/

namespace RestClient.Template

/-- A name between braces, somewhere in a text. -/
def HasPlaceholder (text name : List Char) : Prop :=
  isName name = true ∧ '{' :: (name ++ ['}']) <:+: text

variable {text name : List Char}

theorem not_hasPlaceholder_nil : ¬ HasPlaceholder [] name := by
  rintro ⟨_, h⟩
  simp at h

theorem hasPlaceholder_iff_append :
    HasPlaceholder text name ↔
      isName name = true ∧ ∃ front behind, text = front ++ '{' :: (name ++ '}' :: behind) := by
  simp only [HasPlaceholder, List.IsInfix, List.append_assoc, List.cons_append, List.nil_append,
    @eq_comm _ text]

/-- A placeholder stands at the front of a text, or further behind. -/
theorem hasPlaceholder_cons {c : Char} {cs : List Char} :
    HasPlaceholder (c :: cs) name ↔
      (∃ rest, placeholderAt? (c :: cs) = some (name, rest)) ∨ HasPlaceholder cs name := by
  have hfront : (∃ rest, placeholderAt? (c :: cs) = some (name, rest)) ↔
      isName name = true ∧ '{' :: (name ++ ['}']) <+: c :: cs := by
    simp only [placeholderAt?_eq_some_iff, exists_and_left, List.prefix_iff_exists_eq_append,
      List.cons_append, List.append_assoc, List.nil_append]
  rw [hfront, HasPlaceholder, HasPlaceholder, List.infix_cons_iff, and_or_left]

theorem mem_occurrences : name ∈ occurrences text ↔ HasPlaceholder text name := by
  induction text with
  | nil => simp [occurrences, not_hasPlaceholder_nil]
  | cons c cs ih =>
    rw [occurrences_cons, List.mem_append, ih, hasPlaceholder_cons]
    simp

/-- The scan finds the names that stand between braces. -/
theorem mem_placeholders : name ∈ placeholders text ↔ HasPlaceholder text name := by
  rw [placeholders, List.mem_eraseDups, mem_occurrences]

theorem placeholders_isEmpty_iff :
    (placeholders text).isEmpty = true ↔ ∀ name, ¬ HasPlaceholder text name := by
  rw [List.isEmpty_iff, List.eq_nil_iff_forall_not_mem]
  exact forall_congr' fun name => not_congr mem_placeholders

end RestClient.Template

namespace RestClient

open Template

/-! ### The query of a template -/

theorem queryPart_append {front : List Char} (h : '?' ∉ front) (query : List Char) :
    queryPart (front ++ '?' :: query) = '?' :: query := by
  rw [queryPart, List.dropWhile_append_of_pos]
  · simp
  · intro c hc
    simpa using ne_of_mem_of_not_mem hc h

theorem queryPart_of_not_mem {template : List Char} (h : '?' ∉ template) :
    queryPart template = [] := by
  rw [queryPart, List.dropWhile_eq_nil_iff]
  intro c hc
  simpa using ne_of_mem_of_not_mem hc h

/-- The query of a template is what stands from its first question mark on. -/
theorem forall_not_hasPlaceholder_queryPart {template : List Char} :
    (∀ name, ¬ HasPlaceholder (queryPart template) name) ↔
      ∀ path query, template = path ++ '?' :: query → '?' ∉ path →
        ∀ name, ¬ HasPlaceholder ('?' :: query) name := by
  constructor
  · rintro h path query rfl hpath
    rwa [queryPart_append hpath] at h
  · intro h
    by_cases hmem : '?' ∈ template
    · obtain ⟨path, query, rfl, hpath⟩ := List.eq_append_cons_of_mem hmem
      rw [queryPart_append hpath]
      exact h path query rfl hpath
    · rw [queryPart_of_not_mem hmem]
      exact fun name => not_hasPlaceholder_nil

/-- No placeholder stands in the query exactly when none stands behind a question mark. -/
theorem forall_not_hasPlaceholder_queryPart_iff_before {template : List Char} :
    (∀ name, ¬ HasPlaceholder (queryPart template) name) ↔
      ∀ front name behind, template = front ++ '{' :: (name ++ '}' :: behind) →
        isName name = true → '?' ∉ front := by
  constructor
  · rintro h front name behind rfl hname hmem
    obtain ⟨path, query, rfl, hpath⟩ := List.eq_append_cons_of_mem hmem
    rw [List.append_assoc, List.cons_append, queryPart_append hpath] at h
    exact h name (hasPlaceholder_iff_append.mpr ⟨hname, '?' :: query, behind, rfl⟩)
  · intro h
    rw [forall_not_hasPlaceholder_queryPart]
    rintro path query rfl _ name hplaceholder
    obtain ⟨hname, front, behind, hquery⟩ := hasPlaceholder_iff_append.mp hplaceholder
    refine h (path ++ front) name behind (by rw [hquery, List.append_assoc]) hname ?_
    -- the question mark in front of the query is no brace
    cases front with
    | nil => cases hquery
    | cons c front =>
      obtain ⟨rfl, _⟩ := List.cons.inj hquery
      simp

/-! ### Names for placeholders -/

theorem map_toList_perm_iff {names : List String} {texts : List (List Char)} :
    (names.map String.toList).Perm texts ↔ names.Perm (texts.map String.ofList) := by
  constructor
  · intro h
    simpa [Function.comp_def] using h.map String.ofList
  · intro h
    simpa [Function.comp_def] using h.map String.toList

/-- A template accepts the names of its placeholders, each once and in any order, unless one of
them stands in its query. -/
theorem checkPlaceholders_eq_ok {template : String} {names : List String} :
    checkPlaceholders template names = .ok () ↔
      (∀ name, ¬ HasPlaceholder (queryPart template.toList) name) ∧
        (names.map String.toList).Perm (placeholders template.toList) := by
  rw [← placeholders_isEmpty_iff, map_toList_perm_iff]
  have hnodup : ((placeholders template.toList).map String.ofList).Nodup :=
    List.Nodup.map (fun _ _ h => String.ofList_injective h) (nodup_placeholders _)
  simp only [checkPlaceholders]
  split
  · next hquery => simp_all
  · next hquery =>
    rw [and_iff_right (by simpa using hquery)]
    split
    · next missing hfind =>
      -- a placeholder without a parameter
      have hmissing : missing ∉ names := by simpa using List.find?_some hfind
      constructor
      · rintro ⟨⟩
      · intro hperm
        exact absurd (hperm.mem_iff.mpr (List.mem_of_find?_eq_some hfind)) hmissing
    · next hall =>
      have hsub : (placeholders template.toList).map String.ofList ⊆ names := by
        intro name hm
        simpa using List.find?_eq_none.mp hall name hm
      -- as many names as placeholders leave room for no other name
      have hsubperm := List.subperm_of_subset hnodup hsub
      constructor
      · intro h
        split at h
        · next hlength => exact (hsubperm.perm_of_length_le hlength.le).symm
        · cases h
      · intro hperm
        rw [if_pos hperm.length_eq]

end RestClient
