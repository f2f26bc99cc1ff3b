import RestClient.Text.Basic
import Mathlib.Data.List.Basic
import Mathlib.Data.List.TakeWhile

/-!
# Trimmed text

What is left of a text without the blanks at its ends.

## Main definitions

- `IsTrimmed` — texts without blanks at their ends

## Main results

- `trimChars_eq_iff` — what is left of a text stands in it between blanks
-/

namespace RestClient.Text

theorem trimChars_eq_nil_iff {cs : List Char} :
    trimChars cs = [] ↔ ∀ c ∈ cs, isBlank c = true := by
  rw [trimChars, List.reverse_eq_nil_iff, List.dropWhile_eq_nil_iff]
  constructor
  · intro h
    by_contra hn
    have hne : cs.dropWhile isBlank ≠ [] := fun he => hn (List.dropWhile_eq_nil_iff.mp he)
    have hhead := List.head_dropWhile_not isBlank hne
    have hblank := h _ (List.mem_reverse.mpr (List.head_mem hne))
    rw [hblank] at hhead
    cases hhead
  · intro h c hc
    exact h c ((List.dropWhile_suffix _).subset (List.mem_reverse.mp hc))

/-- A text is blank when nothing is left of it. -/
theorem trim_isEmpty_iff {s : String} :
    (trim s).isEmpty = true ↔ ∀ c ∈ s.toList, isBlank c = true := by
  rw [trim, String.isEmpty_iff, ← trimChars_eq_nil_iff]
  exact String.ofList_eq_empty_iff

/-- A text does not start or end with a blank. -/
def IsTrimmed (cs : List Char) : Prop :=
  (∀ c ∈ cs.head?, isBlank c = false) ∧ ∀ c ∈ cs.getLast?, isBlank c = false

theorem not_isBlank_head_dropWhile {cs : List Char} :
    ∀ c ∈ (cs.dropWhile isBlank).head?, isBlank c = false := by
  intro c hc
  have h := List.head?_dropWhile_not isBlank cs
  rw [Option.mem_def.mp hc] at h
  exact h

theorem dropWhile_isBlank_of_head {cs : List Char} (h : ∀ c ∈ cs.head?, isBlank c = false) :
    cs.dropWhile isBlank = cs := by
  cases cs with
  | nil => rfl
  | cons c cs => exact List.dropWhile_cons_of_neg (by simpa using h c rfl)

theorem isTrimmed_trimChars (cs : List Char) : IsTrimmed (trimChars cs) := by
  unfold trimChars
  constructor
  · -- what is left starts where the blanks in front end, unless nothing is left
    intro c hc
    rw [List.head?_reverse] at hc
    obtain ⟨blanks, hfront⟩ := List.dropWhile_suffix isBlank (l := (cs.dropWhile isBlank).reverse)
    have hne : (cs.dropWhile isBlank).reverse.dropWhile isBlank ≠ [] := by
      intro h
      rw [h] at hc
      cases hc
    rw [← List.getLast?_append_of_ne_nil blanks hne, hfront, List.getLast?_reverse] at hc
    exact not_isBlank_head_dropWhile c hc
  · rw [List.getLast?_reverse]
    exact not_isBlank_head_dropWhile

theorem trimChars_padded {before core after : List Char} (hbefore : ∀ c ∈ before, isBlank c = true)
    (hafter : ∀ c ∈ after, isBlank c = true) (hcore : IsTrimmed core) :
    trimChars (before ++ core ++ after) = core := by
  cases core with
  | nil =>
    rw [List.append_nil, trimChars_eq_nil_iff]
    exact fun c hc => (List.mem_append.mp hc).elim (hbefore c) (hafter c)
  | cons first rest =>
    have hfront : ((first :: rest) ++ after).dropWhile isBlank = (first :: rest) ++ after :=
      dropWhile_isBlank_of_head hcore.1
    have hback : (first :: rest).reverse.dropWhile isBlank = (first :: rest).reverse := by
      refine dropWhile_isBlank_of_head ?_
      rw [List.head?_reverse]
      exact hcore.2
    unfold trimChars
    rw [List.append_assoc, List.dropWhile_append_of_pos hbefore, hfront, List.reverse_append,
      List.dropWhile_append_of_pos (fun c hc => hafter c (List.mem_reverse.mp hc)), hback,
      List.reverse_reverse]

/-- What is left of a text stands in it between blanks. -/
theorem trimChars_eq_iff {cs core : List Char} : trimChars cs = core ↔ IsTrimmed core ∧
    ∃ before after, (∀ c ∈ before, isBlank c = true) ∧ (∀ c ∈ after, isBlank c = true) ∧
      cs = before ++ core ++ after := by
  constructor
  · rintro rfl
    refine ⟨isTrimmed_trimChars cs, cs.takeWhile isBlank,
      ((cs.dropWhile isBlank).reverse.takeWhile isBlank).reverse, ?_, ?_, ?_⟩
    · exact fun c hc => List.mem_takeWhile_imp hc
    · exact fun c hc => List.mem_takeWhile_imp (List.mem_reverse.mp hc)
    · rw [trimChars, List.append_assoc, ← List.reverse_append, List.takeWhile_append_dropWhile,
        List.reverse_reverse, List.takeWhile_append_dropWhile]
  · rintro ⟨hcore, before, after, hbefore, hafter, rfl⟩
    exact trimChars_padded hbefore hafter hcore

end RestClient.Text
