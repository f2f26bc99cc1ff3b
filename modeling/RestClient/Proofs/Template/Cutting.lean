import RestClient.Interface.Template
import Mathlib.Data.List.TakeWhile

/-!
# How templates are cut

A template is read twice: once for its placeholders, and once for its groups. A placeholder is an
opening brace with a name and a closing brace behind it; a group runs from an opening brace to the
next closing one, whatever stands between them. Both cuts keep the text.

## Main definitions

- `Template.placeholderAt?` — the placeholder at the front of a text
- `Template.placeholderPieces` — the template cut at its placeholders
- `Template.filled` — the template with a value for every placeholder
-/

namespace RestClient.Template

/-! ### Braces and names -/

theorem not_isBrace_of_isName {name : List Char} (h : isName name) :
    ∀ c ∈ name, isBrace c = false := by
  have hrest : ∀ c, isNameRest c → isBrace c = false := by
    intro c hc
    by_contra hb
    have hb : c = '{' ∨ c = '}' := by simpa [isBrace, or_iff_not_imp_left] using hb
    rcases hb with rfl | rfl <;> revert hc <;> decide
  cases name with
  | nil => simp [isName] at h
  | cons c cs =>
    have h : isLetter c ∧ ∀ x ∈ cs, isNameRest x := by simpa [isName] using h
    intro x hx
    rcases List.mem_cons.mp hx with rfl | hx
    · exact hrest x (by simp [isNameRest, h.1])
    · exact hrest x (h.2 x hx)

theorem open_not_mem_of_isName {name : List Char} (h : isName name) : '{' ∉ name := by
  intro hm
  exact absurd (not_isBrace_of_isName h _ hm) (by decide)

theorem close_not_mem_of_isName {name : List Char} (h : isName name) : '}' ∉ name := by
  intro hm
  exact absurd (not_isBrace_of_isName h _ hm) (by decide)

/-- Two texts that go on to their first closing brace are cut there in one way. -/
theorem append_close_inj {a a' b b' : List Char} (ha : '}' ∉ a) (ha' : '}' ∉ a')
    (h : a ++ '}' :: b = a' ++ '}' :: b') : a = a' ∧ b = b' := by
  induction a generalizing a' with
  | nil =>
    cases a' with
    | nil => simpa using h
    | cons c a' =>
      have hc : c = '}' := by simpa using (List.cons.inj h).1.symm
      simp [hc] at ha'
  | cons c a ih =>
    cases a' with
    | nil =>
      have hc : c = '}' := by simpa using (List.cons.inj h).1
      simp [hc] at ha
    | cons c' a' =>
      obtain ⟨hc, ht⟩ := List.cons.inj h
      obtain ⟨hab, hb⟩ := ih (by simp_all) (by simp_all) ht
      exact ⟨by rw [hc, hab], hb⟩

/-- A closing brace behind a text without one is its first, or stands after it. -/
theorem append_close_cases {a u b v : List Char} (hu : '}' ∉ u)
    (h : a ++ '}' :: b = u ++ '}' :: v) :
    a = u ∧ b = v ∨ ∃ w, a = u ++ '}' :: w ∧ v = w ++ '}' :: b := by
  rcases List.append_eq_append_iff.mp h with ⟨w, hw, hv⟩ | ⟨w, hw, hv⟩
  · cases w with
    | nil => exact .inl ⟨by simpa using hw.symm, by simpa using hv⟩
    | cons c w =>
      have hc : c = '}' := by simpa using (List.cons.inj hv).1.symm
      simp [hw, hc] at hu
  · cases w with
    | nil => exact .inl ⟨by simpa using hw, by simpa using hv.symm⟩
    | cons c w =>
      obtain ⟨hc, hv⟩ := List.cons.inj hv
      exact .inr ⟨w, by rw [hw, hc], hv⟩

/-! ### Groups -/

theorem splitAtClose?_eq_some_iff {cs text rest : List Char} :
    splitAtClose? cs = some (text, rest) ↔ cs = text ++ '}' :: rest ∧ '}' ∉ text := by
  induction cs generalizing text with
  | nil => simp [splitAtClose?]
  | cons c cs ih =>
    simp only [splitAtClose?]
    split
    · next hc =>
      constructor
      · intro h
        obtain ⟨rfl, rfl⟩ : [] = text ∧ cs = rest := by simpa using h
        simp [hc]
      · rintro ⟨h, hn⟩
        cases text with
        | nil => simpa using (List.cons.inj h).2
        | cons d text =>
          have hd : c = d := (List.cons.inj h).1
          simp [← hd, hc] at hn
    · next hc =>
      simp only [Option.map_eq_some_iff, Prod.exists, Prod.mk.injEq]
      constructor
      · rintro ⟨t, r, ht, rfl, rfl⟩
        obtain ⟨h, hn⟩ := ih.mp ht
        exact ⟨by rw [h]; rfl, by simp [hn, Ne.symm hc]⟩
      · rintro ⟨h, hn⟩
        cases text with
        | nil => exact absurd (List.cons.inj h).1 hc
        | cons d text =>
          obtain ⟨rfl, htail⟩ := List.cons.inj h
          exact ⟨text, rest, ih.mpr ⟨htail, by simp_all⟩, rfl, rfl⟩

theorem splitAtClose?_eq_none_iff {cs : List Char} : splitAtClose? cs = none ↔ '}' ∉ cs := by
  induction cs with
  | nil => simp [splitAtClose?]
  | cons c cs ih =>
    simp only [splitAtClose?]
    split
    · next hc => simp [hc]
    · next hc => simp [ih, Ne.symm hc]

/-- Cutting a template into pieces loses no text. -/
theorem flatMap_text_pieces (template : List Char) :
    (pieces template).flatMap Piece.text = template := by
  fun_induction pieces template with
  | case1 => rfl
  | case2 cs text rest h ih =>
    obtain ⟨rfl, _⟩ := splitAtClose?_eq_some_iff.mp h
    simp [Piece.text, ih]
  | case3 cs h => simp [List.flatMap_map, Piece.text]
  | case4 c cs hc ih => simp [Piece.text, ih]

/-- The text of a group ends at the first closing brace. -/
theorem close_not_mem_of_group_mem {template text : List Char}
    (h : Piece.group text ∈ pieces template) : '}' ∉ text := by
  fun_induction pieces template with
  | case1 => simp at h
  | case2 cs t rest hs ih =>
    rcases List.mem_cons.mp h with h | h
    · obtain rfl : text = t := by simpa using h
      exact (splitAtClose?_eq_some_iff.mp hs).2
    · exact ih h
  | case3 cs hs => simp at h
  | case4 c cs hc ih => exact ih (by simpa using h)

/-! ### Placeholders -/

theorem closedText?_eq_some_iff {cs name : List Char} :
    closedText? cs = some name ↔
      (∀ c ∈ name, isBrace c = false) ∧ ∃ rest, cs = name ++ '}' :: rest := by
  have hcut : cs = cs.takeWhile (!isBrace ·) ++ cs.dropWhile (!isBrace ·) :=
    List.takeWhile_append_dropWhile.symm
  constructor
  · intro h
    simp only [closedText?] at h
    split at h
    · next rest hr =>
      obtain rfl : cs.takeWhile (!isBrace ·) = name := by simpa using h
      refine ⟨?_, rest, by rw [← hr]; exact hcut⟩
      intro c hc
      simpa using List.mem_takeWhile_imp hc
    · exact absurd h (by simp)
  · rintro ⟨hn, rest, rfl⟩
    have ht : (name ++ '}' :: rest).takeWhile (!isBrace ·) = name := by
      rw [List.takeWhile_append_of_pos (by simpa using hn)]
      simp [isBrace]
    have hd : (name ++ '}' :: rest).dropWhile (!isBrace ·) = '}' :: rest := by
      rw [List.dropWhile_append_of_pos (by simpa using hn)]
      simp [isBrace]
    simp only [closedText?, hd, ht]

/-- The name of the placeholder at the front of a text, and the text behind it. -/
def placeholderAt? : List Char → Option (List Char × List Char)
  | [] => none
  | c :: cs =>
    if c = '{' then
      match closedText? cs with
      | some name => if isName name then some (name, cs.drop (name.length + 1)) else none
      | none => none
    else none

theorem placeholderAt?_eq_some_iff {cs name rest : List Char} :
    placeholderAt? cs = some (name, rest) ↔ isName name ∧ cs = '{' :: (name ++ '}' :: rest) := by
  cases cs with
  | nil => simp [placeholderAt?]
  | cons c cs =>
    simp only [placeholderAt?]
    constructor
    · intro h
      split at h
      · next hc =>
        split at h
        · next t ht =>
          obtain ⟨_, r, rfl⟩ := closedText?_eq_some_iff.mp ht
          split at h
          · next hn =>
            obtain ⟨rfl, rfl⟩ : t = name ∧ r = rest := by simpa using h
            exact ⟨hn, by rw [hc]⟩
          · exact absurd h (by simp)
        · exact absurd h (by simp)
      · exact absurd h (by simp)
    · rintro ⟨hn, h⟩
      obtain ⟨rfl, rfl⟩ := List.cons.inj h
      have ht : closedText? (name ++ '}' :: rest) = some name :=
        closedText?_eq_some_iff.mpr ⟨not_isBrace_of_isName hn, rest, rfl⟩
      simp [ht, hn]

theorem placeholderAt?_eq_none_iff {cs : List Char} :
    placeholderAt? cs = none ↔
      ∀ name rest, cs = '{' :: (name ++ '}' :: rest) → ¬ isName name := by
  rw [Option.eq_none_iff_forall_ne_some]
  constructor
  · intro h name rest hcs hn
    exact h (name, rest) (placeholderAt?_eq_some_iff.mpr ⟨hn, hcs⟩)
  · rintro h ⟨name, rest⟩ hp
    obtain ⟨hn, hcs⟩ := placeholderAt?_eq_some_iff.mp hp
    exact h name rest hcs hn

/-- What follows a placeholder is shorter than the whole. -/
theorem placeholderAt?_length {cs name rest : List Char}
    (h : placeholderAt? cs = some (name, rest)) : rest.length < cs.length := by
  obtain ⟨_, rfl⟩ := placeholderAt?_eq_some_iff.mp h
  simp only [List.length_append, List.length_cons]
  omega

/-- The template cut from left to right at its placeholders; all other text is characters. -/
def placeholderPieces : List Char → List Piece
  | [] => []
  | c :: cs =>
    match _h : placeholderAt? (c :: cs) with
    | some (name, rest) => .group name :: placeholderPieces rest
    | none => .char c :: placeholderPieces cs
  termination_by cs => cs.length
  decreasing_by
    · exact placeholderAt?_length _h
    · simp

theorem placeholderPieces_placeholder {name : List Char} (hn : isName name) (rest : List Char) :
    placeholderPieces ('{' :: (name ++ '}' :: rest)) = .group name :: placeholderPieces rest := by
  have hp := placeholderAt?_eq_some_iff.mpr ⟨hn, Eq.refl ('{' :: (name ++ '}' :: rest))⟩
  rw [placeholderPieces]
  split
  · next name' rest' h =>
    obtain ⟨rfl, rfl⟩ : name = name' ∧ rest = rest' := by simpa [hp] using h
    rfl
  · next h => exact absurd h (by simp [hp])

theorem placeholderPieces_cons {c : Char} {cs : List Char} (h : placeholderAt? (c :: cs) = none) :
    placeholderPieces (c :: cs) = .char c :: placeholderPieces cs := by
  rw [placeholderPieces]
  split
  · next h' => exact absurd h' (by simp [h])
  · rfl

/-- The template with its value in the place of every placeholder, and all other text kept. -/
def filled (template : List Char) (values : List (List Char × List Char)) : List Char :=
  (placeholderPieces template).flatMap (Piece.fill values)

/-- Cutting a template at its placeholders loses no text. -/
theorem flatMap_text_placeholderPieces (template : List Char) :
    (placeholderPieces template).flatMap Piece.text = template := by
  fun_induction placeholderPieces template with
  | case1 => rfl
  | case2 c cs name rest h ih =>
    obtain ⟨_, hcs⟩ := placeholderAt?_eq_some_iff.mp h
    simp [Piece.text, ih, hcs]
  | case3 c cs h ih => simp [Piece.text, ih]

theorem occurrences_cons (c : Char) (cs : List Char) :
    occurrences (c :: cs) =
      ((placeholderAt? (c :: cs)).map (·.1)).toList ++ occurrences cs := by
  simp only [occurrences, placeholderAt?]
  split
  · cases closedText? cs with
    | none => rfl
    | some name => by_cases hn : isName name <;> simp [hn]
  · rfl

/-- Text without an opening brace starts no placeholder. -/
theorem occurrences_append_of_open_not_mem {a b : List Char} (h : '{' ∉ a) :
    occurrences (a ++ b) = occurrences b := by
  induction a with
  | nil => rfl
  | cons c a ih =>
    have hc : c ≠ '{' := by
      rintro rfl
      simp at h
    rw [List.cons_append, occurrences_cons, ih (by simp_all)]
    simp [placeholderAt?, hc]

/-- The groups of the cut are the placeholders, each as often as it occurs and in order. -/
theorem placeholderPieces_groups (template : List Char) :
    (placeholderPieces template).filterMap
        (fun | .group name => some name | .char _ => none) = occurrences template := by
  fun_induction placeholderPieces template with
  | case1 => rfl
  | case2 c cs name rest h ih =>
    obtain ⟨hn, hcs⟩ := placeholderAt?_eq_some_iff.mp h
    obtain ⟨_, rfl⟩ := List.cons.inj hcs
    have hskip : occurrences (name ++ '}' :: rest) = occurrences rest := by
      rw [occurrences_append_of_open_not_mem (open_not_mem_of_isName hn)]
      exact occurrences_append_of_open_not_mem (a := ['}']) (by simp)
    rw [occurrences_cons, h, hskip]
    simpa using ih
  | case3 c cs h ih =>
    rw [occurrences_cons, h]
    simpa using ih

theorem group_mem_placeholderPieces {template name : List Char} :
    Piece.group name ∈ placeholderPieces template ↔ name ∈ placeholders template := by
  rw [placeholders, List.mem_eraseDups, ← placeholderPieces_groups, List.mem_filterMap]
  constructor
  · intro h
    exact ⟨_, h, rfl⟩
  · rintro ⟨p, hp, he⟩
    cases p with
    | char c => simp at he
    | group t =>
      obtain rfl : t = name := by simpa using he
      exact hp

theorem nodup_eraseDups {α : Type} [BEq α] [LawfulBEq α] : (l : List α) → l.eraseDups.Nodup
  | [] => by simp
  | a :: l => by
    -- what is left is shorter, but no tail of the list
    have hl : (l.filter fun b => !b == a).length < (a :: l).length :=
      Nat.lt_succ_of_le (List.length_filter_le _ _)
    rw [List.eraseDups_cons, List.nodup_cons]
    exact ⟨by simp, nodup_eraseDups _⟩
  termination_by l => l.length
  decreasing_by exact hl

/-- No placeholder is listed twice. -/
theorem nodup_placeholders (template : List Char) : (placeholders template).Nodup :=
  nodup_eraseDups _

theorem isName_of_group_mem {template name : List Char}
    (h : Piece.group name ∈ placeholderPieces template) : isName name := by
  fun_induction placeholderPieces template with
  | case1 => simp at h
  | case2 c cs n rest hp ih =>
    rcases List.mem_cons.mp h with h | h
    · obtain rfl : name = n := by simpa using h
      exact (placeholderAt?_eq_some_iff.mp hp).1
    · exact ih h
  | case3 c cs hp ih => exact ih (by simpa using h)

/-! ### Values -/

/-- What is found under a name is listed under it. -/
theorem mem_of_lookup? {values : List (List Char × List Char)} {name value : List Char}
    (h : lookup? values name = some value) : (name, value) ∈ values := by
  obtain ⟨⟨n, v⟩, hfind, rfl⟩ := Option.map_eq_some_iff.mp h
  obtain rfl : n = name := by simpa using List.find?_some hfind
  exact List.mem_of_find?_eq_some hfind

end RestClient.Template
