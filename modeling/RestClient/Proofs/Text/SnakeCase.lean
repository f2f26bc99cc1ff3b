import Mathlib.Data.List.Forall2
import Mathlib.Data.List.TakeWhile
import RestClient.Text.SnakeCase

/-!
# Letters of a text in snake case

A text in snake case has the letters and numbers of the text in lower case, in their order, with
underscores between some of them and neither at the start nor at the end. Only a sigma can look
different from its lower case, at the end of a word.

## Main definitions

- `Text.lowerLetters` — the letters and numbers of a text in lower case
- `Text.SameLetter`, `Text.SameLetters` — the same letter, also where it is a final sigma
- `Text.IsOfLetters` — properties that hold of underscores and of both forms of a letter

## Main results

- `Text.flatten_words` — the words of a text hold its letters and numbers
- `Text.snakeCase_cases` — what a text in snake case is made of
-/

namespace RestClient.Text

/-- The letters and numbers of a text, in lower case. -/
def lowerLetters (cs : List Char) : List Char :=
  (cs.filter isAlphanumeric).flatMap lowerChar

/-- A character is a letter in lower case, or the final form of a sigma. -/
def SameLetter (c letter : Char) : Prop :=
  c = letter ∨ (c = Char.ofNat 0x3c2 ∧ letter = Char.ofNat 0x3c3)

/-- Letters that are the same, one by one. -/
abbrev SameLetters : List Char → List Char → Prop :=
  List.Forall₂ SameLetter

/-! ### Words -/

/-- Cutting a run into words keeps its characters. -/
theorem flatten_splitRun (casing : Casing) (word : List Char) {cs : List Char} (h : cs ≠ []) :
    (splitRun casing word cs).flatten = word.reverse ++ cs := by
  fun_induction splitRun casing word cs with
  | case1 => exact absurd rfl h
  | case2 => simp
  | case3 casing word c d rest hends ih => simp [ih]
  | case4 casing word c d rest hlower hends ih => simp [ih]
  | case5 casing word c d rest hlower hends ih => simp [ih]

/-- No word is empty: the case of a word is told by a letter of it. -/
theorem ne_nil_of_mem_splitRun {casing : Casing} {word cs w : List Char}
    (hword : casing = .upper → word ≠ []) (h : w ∈ splitRun casing word cs) : w ≠ [] := by
  fun_induction splitRun casing word cs with
  | case1 => cases h
  | case2 casing word c =>
    obtain rfl := List.mem_singleton.mp h
    simp
  | case3 casing word c d rest hends ih =>
    rcases List.mem_cons.mp h with rfl | h
    · simp
    · exact ih (by simp) h
  | case4 casing word c d rest hlower hends ih =>
    rcases List.mem_cons.mp h with rfl | h
    · have hupper : casing = .upper := by simp_all
      simpa using hword hupper
    · exact ih (by simp) h
  | case5 casing word c d rest hlower hends ih => exact ih (by simp) h

/-- The runs hold the letters and numbers of a text. -/
theorem flatten_runs (cs : List Char) : (runs cs).flatten = cs.filter isAlphanumeric := by
  fun_induction runs cs with
  | case1 => rfl
  | case2 c rest hc ih =>
    have hrun : (rest.takeWhile isAlphanumeric).filter isAlphanumeric =
        rest.takeWhile isAlphanumeric :=
      List.filter_eq_self.mpr fun _ => List.mem_takeWhile_imp
    have hcut := congrArg (List.filter isAlphanumeric)
      (List.takeWhile_append_dropWhile (p := isAlphanumeric) (l := rest))
    rw [List.filter_append, hrun] at hcut
    rw [List.flatten_cons, ih, List.filter_cons_of_pos hc, List.cons_append, hcut]
  | case3 c rest hc ih => rw [ih, List.filter_cons_of_neg hc]

theorem ne_nil_of_mem_runs {cs run : List Char} (h : run ∈ runs cs) : run ≠ [] := by
  fun_induction runs cs with
  | case1 => cases h
  | case2 c rest hc ih =>
    rcases List.mem_cons.mp h with rfl | h
    · simp
    · exact ih h
  | case3 c rest hc ih => exact ih h

/-- The words hold the letters and numbers of a text. -/
theorem flatten_words (cs : List Char) : (words cs).flatten = cs.filter isAlphanumeric := by
  rw [words, List.flatten_eq_flatMap, List.flatMap_assoc, ← flatten_runs, List.flatten_eq_flatMap]
  refine List.flatMap_congr fun run hrun => ?_
  rw [← List.flatten_eq_flatMap]
  exact flatten_splitRun .none [] (ne_nil_of_mem_runs hrun)

theorem ne_nil_of_mem_words {cs w : List Char} (h : w ∈ words cs) : w ≠ [] := by
  obtain ⟨run, _, hw⟩ := List.mem_flatMap.mp h
  exact ne_nil_of_mem_splitRun (by simp) hw

/-! ### Lower case -/

theorem lowerChar_ne_nil (c : Char) : lowerChar c ≠ [] := by
  unfold lowerChar
  dsimp only
  split
  · simp
  · split
    · simp
    · split <;> simp

theorem lowerWord_ne_nil {w : List Char} (h : w ≠ []) : lowerWord w ≠ [] := by
  fun_cases lowerWord w with
  | case1 => exact absurd rfl h
  | case2 c hsigma => simp
  | case3 c hne => exact lowerChar_ne_nil c
  | case4 c rest hrest => exact fun hnil => lowerChar_ne_nil c (List.append_eq_nil_iff.mp hnil).1

theorem sameLetters_self (l : List Char) : SameLetters l l :=
  List.forall₂_same.mpr fun _ _ => .inl rfl

theorem sameLetters_lowerWord (w : List Char) :
    SameLetters (lowerWord w) (w.flatMap lowerChar) := by
  fun_induction lowerWord w with
  | case1 => exact .nil
  | case2 c hsigma =>
    obtain rfl : c = Char.ofNat 0x3a3 := by rw [← hsigma, Char.ofNat_toNat]
    have hlower : [Char.ofNat 0x3a3].flatMap lowerChar = [Char.ofNat 0x3c3] := by decide
    rw [hlower]
    exact .cons (.inr ⟨rfl, rfl⟩) .nil
  | case3 c hne => simpa using sameLetters_self (lowerChar c)
  | case4 c rest hrest ih => exact List.rel_append (sameLetters_self _) ih

/-- The words in lower case have the letters and numbers of the text. -/
theorem sameLetters_words (cs : List Char) :
    SameLetters ((words cs).flatMap lowerWord) (lowerLetters cs) := by
  rw [lowerLetters, ← flatten_words]
  induction words cs with
  | nil => exact .nil
  | cons w ws ih =>
    rw [List.flatMap_cons, List.flatten_cons, List.flatMap_append]
    exact List.rel_append (sameLetters_lowerWord w) ih

/-! ### The whole text -/

theorem intercalate_cons (c : Char) (v : List Char) (vs : List (List Char)) :
    [c].intercalate (v :: vs) = v ++ vs.flatMap (c :: ·) := by
  induction vs generalizing v with
  | nil => simp
  | cons u us ih => rw [List.intercalate_cons_cons, ih, List.flatMap_cons, List.append_assoc,
      List.singleton_append, List.cons_append]

/-- A property that underscores have, and that does not tell the forms of a letter apart. -/
structure IsOfLetters (P : Char → Prop) : Prop where
  underscore : P '_'
  same : ∀ {c letter}, SameLetter c letter → (P c ↔ P letter)

theorem IsOfLetters.forall_iff {P : Char → Prop} (hP : IsOfLetters P) {l letters : List Char}
    (h : SameLetters l letters) : (∀ c ∈ l, P c) ↔ ∀ c ∈ letters, P c := by
  induction h with
  | nil => simp
  | cons hc _ ih => rw [List.forall_mem_cons, List.forall_mem_cons, hP.same hc, ih]

/-- A text in snake case is empty if the text has no letters and numbers. Otherwise it starts with
the first of them, and what holds of the others holds of all that follows. -/
theorem snakeCase_cases (cs : List Char) :
    (lowerLetters cs = [] ∧ snakeCase cs = []) ∨
      ∃ letter letters c rest, lowerLetters cs = letter :: letters ∧ snakeCase cs = c :: rest ∧
        SameLetter c letter ∧
        ∀ P, IsOfLetters P → ((∀ d ∈ rest, P d) ↔ ∀ d ∈ letters, P d) := by
  have hsame := sameLetters_words cs
  cases hwords : words cs with
  | nil =>
    rw [hwords, List.flatMap_nil] at hsame
    exact .inl ⟨List.forall₂_nil_left_iff.mp hsame, by rw [snakeCase, hwords]; rfl⟩
  | cons w ws =>
    have hmem : w ∈ words cs := by
      rw [hwords]
      exact List.mem_cons_self
    have hw : w ≠ [] := ne_nil_of_mem_words hmem
    obtain ⟨c, v, hlower⟩ := List.exists_cons_of_ne_nil (lowerWord_ne_nil hw)
    rw [hwords, List.flatMap_cons, hlower, List.cons_append] at hsame
    obtain ⟨letter, letters, hc, hrest, hletters⟩ := List.forall₂_cons_left_iff.mp hsame
    refine .inr ⟨letter, letters, c, v ++ (ws.map lowerWord).flatMap ('_' :: ·), hletters, ?_, hc,
      fun P hP => ?_⟩
    · rw [snakeCase, hwords, List.map_cons, hlower, intercalate_cons, List.cons_append]
    · rw [← hP.forall_iff hrest]
      simp only [List.forall_mem_append, List.forall_mem_flatMap, List.forall_mem_map,
        List.forall_mem_cons, hP.underscore, true_and]

end RestClient.Text
