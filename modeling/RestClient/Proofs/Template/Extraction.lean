import RestClient.Proofs.Template.Occurrences

/-!
# The scan for placeholders

Placeholders are looked for in one pass. At an opening brace the text up to the next brace is read
at once: if that brace closes, the pass goes on behind it, otherwise it goes on with it. As no
opening brace is ever read over, what is found is all that there is: every name that stands between
braces somewhere, once, in the order of the first places.

## Main definitions

- `Template.scan` — the pass, with the names that have been found so far
- `Template.IsPlaceholderName` — the grammar of names
- `Template.StandsAt` — a text in braces at a place
- `Template.ListsPlaceholders` — the lists that name the placeholders of a text

## Main results

- `Template.scan_eq` — what a pass adds to the names that it starts with
- `Template.placeholders_listed` — the one list that names the placeholders
-/

namespace RestClient.Template

/-! ### The pass -/

/-- Where the pass goes on when it has read the text behind an opening brace: behind the next brace
if that closes, and with it if it opens. -/
def afterGroup (cs : List Char) : List Char :=
  match cs.dropWhile (!isBrace ·) with
  | '}' :: rest => rest
  | rest => rest

/-- The names that have been found, with the text of a group if it is a new one. -/
def record (found : List (List Char)) : Option (List Char) → List (List Char)
  | some name => if isName name && !found.contains name then found ++ [name] else found
  | none => found

theorem length_afterGroup_le (cs : List Char) : (afterGroup cs).length ≤ cs.length := by
  have hdrop := (List.dropWhile_sublist (l := cs) (!isBrace ·)).length_le
  unfold afterGroup
  split
  · next rest hrest =>
    rw [hrest, List.length_cons] at hdrop
    omega
  · exact hdrop

/-- The names that have been found, and those of a text behind them. -/
def scan (found : List (List Char)) : List Char → List (List Char)
  | [] => found
  | c :: cs =>
    if c = '{' then scan (record found (closedText? cs)) (afterGroup cs) else scan found cs
  termination_by text => text.length
  decreasing_by
    · exact Nat.lt_succ_of_le (length_afterGroup_le cs)
    · simp

/-- No placeholder starts in the text that a group takes. -/
theorem occurrences_afterGroup (cs : List Char) : occurrences (afterGroup cs) = occurrences cs := by
  have hopen : '{' ∉ cs.takeWhile (!isBrace ·) := by
    intro hm
    exact absurd (List.mem_takeWhile_imp hm) (by decide)
  have hdrop : occurrences (cs.dropWhile (!isBrace ·)) = occurrences cs := by
    rw [← occurrences_append_of_open_not_mem hopen, List.takeWhile_append_dropWhile]
  rw [← hdrop, afterGroup]
  split
  · next rest hrest =>
    rw [hrest]
    exact (occurrences_append_of_open_not_mem (a := ['}']) (by simp)).symm
  · rfl

/-- At an opening brace the text up to the next brace counts if it is a name, and nothing that is
read with it is missed. -/
theorem occurrences_open (cs : List Char) :
    occurrences ('{' :: cs) =
      ((closedText? cs).toList.filter isName) ++ occurrences (afterGroup cs) := by
  rw [occurrences_afterGroup, occurrences, if_pos rfl]
  cases closedText? cs with
  | none => rfl
  | some name => by_cases hname : isName name = true <;> simp [hname]

/-- A name that has not been found comes first, and does not come again. -/
theorem eraseDups_filter_cons {name : List Char} {found rest : List (List Char)}
    (h : name ∉ found) :
    ((name :: rest).filter (!found.contains ·)).eraseDups =
      name :: (rest.filter (!(found ++ [name]).contains ·)).eraseDups := by
  rw [List.filter_cons_of_pos (by simpa using h), List.eraseDups_cons, List.filter_filter]
  congr 2
  refine List.filter_congr fun other _ => ?_
  rw [List.contains_append, Bool.not_or, Bool.and_comm, List.contains_cons, List.contains_nil,
    Bool.or_false]

/-- A pass adds the placeholders of the text that have not been found before. -/
theorem scan_eq (found : List (List Char)) (text : List Char) :
    scan found text = found ++ ((occurrences text).filter (!found.contains ·)).eraseDups := by
  fun_induction scan found text with
  | case1 => simp [occurrences]
  | case2 found cs ih =>
    rw [ih, occurrences_open]
    cases closedText? cs with
    | none => rfl
    | some name =>
      by_cases hname : isName name = true
      · by_cases hfound : name ∈ found
        · simp [record, hname, hfound]
        · have hnew : record found (some name) = found ++ [name] := by
            simp [record, hname, hfound]
          have hgroup : (some name).toList.filter isName = [name] := by simp [hname]
          rw [hnew, hgroup, List.singleton_append, eraseDups_filter_cons hfound,
            List.append_assoc, List.singleton_append]
      · simp [record, hname]
  | case3 found c cs hc ih =>
    rw [ih, occurrences, if_neg hc]

/-! ### Places -/

/-- A name of a placeholder: an ASCII letter, and then ASCII letters, digits, underscores and
hyphens. -/
def IsPlaceholderName (name : List Char) : Prop :=
  ∃ c cs, name = c :: cs ∧ c.isAlpha = true ∧
    ∀ d ∈ cs, d.isAlphanum = true ∨ d = '_' ∨ d = '-'

/-- A text stands between braces, and the opening brace is the character with a number. -/
def StandsAt (text name : List Char) (i : Nat) : Prop :=
  '{' :: (name ++ ['}']) <+: text.drop i

/-- A name stands between braces somewhere in front of all places where another one does. -/
def Precedes (text name other : List Char) : Prop :=
  ∃ i, StandsAt text name i ∧ ∀ j, StandsAt text other j → i < j

/-- The placeholders of a text: the names that stand between braces somewhere, each once, in the
order in which they first do. -/
structure ListsPlaceholders (text : List Char) (names : List (List Char)) : Prop where
  distinct : names.Nodup
  mem_iff : ∀ name, name ∈ names ↔ IsPlaceholderName name ∧ ∃ i, StandsAt text name i
  ordered : names.Pairwise (Precedes text)

theorem isLetter_eq (c : Char) : isLetter c = c.isAlpha := by
  rw [isLetter, Bool.or_comm, ← Bool.decide_and ('A' ≤ c)]
  rfl

theorem isNameRest_iff {c : Char} :
    isNameRest c = true ↔ c.isAlphanum = true ∨ c = '_' ∨ c = '-' := by
  have hdigit : ('0' ≤ c && c ≤ '9') = c.isDigit := rfl
  rw [isNameRest, isLetter_eq, hdigit, ← Char.isAlphanum]
  simp [or_assoc]

theorem isName_iff {name : List Char} : isName name = true ↔ IsPlaceholderName name := by
  cases name with
  | nil => simp [isName, IsPlaceholderName]
  | cons c cs => simp [isName, IsPlaceholderName, isLetter_eq, isNameRest_iff]

theorem exists_standsAt_iff {text name : List Char} :
    (∃ i, StandsAt text name i) ↔ '{' :: (name ++ ['}']) <:+: text := by
  constructor
  · rintro ⟨i, h⟩
    exact h.isInfix.trans (List.drop_suffix i text).isInfix
  · rintro ⟨front, behind, h⟩
    refine ⟨front.length, behind, ?_⟩
    rw [← h, List.append_assoc, List.drop_left]

theorem hasPlaceholder_iff_standsAt {text name : List Char} :
    HasPlaceholder text name ↔ IsPlaceholderName name ∧ ∃ i, StandsAt text name i := by
  rw [HasPlaceholder, isName_iff, exists_standsAt_iff]

/-- One more character in front moves all places by one. -/
theorem standsAt_succ {c : Char} {cs name : List Char} {i : Nat} :
    StandsAt (c :: cs) name (i + 1) ↔ StandsAt cs name i :=
  Iff.rfl

theorem placeholderAt?_of_standsAt_zero {text name : List Char} (hname : isName name = true)
    (h : StandsAt text name 0) : ∃ rest, placeholderAt? text = some (name, rest) := by
  obtain ⟨rest, h⟩ := h
  refine ⟨rest, placeholderAt?_eq_some_iff.mpr ⟨hname, ?_⟩⟩
  simpa using h.symm

theorem Precedes.cons {c : Char} {cs name other : List Char} (h : Precedes cs name other)
    (hfront : ¬ StandsAt (c :: cs) other 0) : Precedes (c :: cs) name other := by
  obtain ⟨i, hi, hfirst⟩ := h
  refine ⟨i + 1, standsAt_succ.mpr hi, ?_⟩
  intro j hj
  cases j with
  | zero => exact absurd hj hfront
  | succ j => exact Nat.succ_lt_succ (hfirst j hj)

/-- What stands at the front of a text precedes what does not. -/
theorem precedes_of_front {text name other : List Char} (hname : StandsAt text name 0)
    (hother : ¬ StandsAt text other 0) : Precedes text name other := by
  refine ⟨0, hname, fun j hj => ?_⟩
  rcases Nat.eq_zero_or_pos j with rfl | hpos
  · exact absurd hj hother
  · exact hpos

/-- The names are in the order of their first places, also when some of them are left out. -/
theorem ordered_occurrences (text : List Char) (p : List Char → Bool) :
    ((occurrences text).filter p).eraseDups.Pairwise (Precedes text) := by
  induction text generalizing p with
  | nil => simp [occurrences]
  | cons c cs ih =>
    -- what holds of the tail holds of the whole for names that do not stand at its front
    have hlater : ∀ q : List Char → Bool,
        (∀ name ∈ (occurrences cs).filter q, ¬ StandsAt (c :: cs) name 0) →
          ((occurrences cs).filter q).eraseDups.Pairwise (Precedes (c :: cs)) := by
      intro q hq
      refine (ih q).imp_of_mem fun _ hother h => h.cons (hq _ (List.mem_eraseDups.mp hother))
    have hnames : ∀ name ∈ occurrences cs, isName name = true := fun name hm =>
      (mem_occurrences.mp hm).1
    rw [occurrences_cons]
    cases hat : placeholderAt? (c :: cs) with
    | none =>
      refine hlater p fun name hm hfront => ?_
      obtain ⟨rest, hsome⟩ :=
        placeholderAt?_of_standsAt_zero (hnames name (List.mem_of_mem_filter hm)) hfront
      rw [hat] at hsome
      cases hsome
    | some split =>
      obtain ⟨front, rest⟩ := split
      obtain ⟨hname, htext⟩ := placeholderAt?_eq_some_iff.mp hat
      have hstands : StandsAt (c :: cs) front 0 := ⟨rest, by simp [htext]⟩
      -- no other name stands where this one does
      have hother : ∀ name ∈ occurrences cs, name ≠ front → ¬ StandsAt (c :: cs) name 0 := by
        intro name hm hne hfront
        obtain ⟨_, hsome⟩ := placeholderAt?_of_standsAt_zero (hnames name hm) hfront
        rw [hat, Option.some.injEq, Prod.mk.injEq] at hsome
        exact hne hsome.1.symm
      rw [Option.map_some, Option.toList_some, List.singleton_append]
      by_cases hp : p front = true
      · rw [List.filter_cons_of_pos hp, List.eraseDups_cons, List.filter_filter,
          List.pairwise_cons]
        constructor
        · intro name hm
          obtain ⟨hm, hq⟩ := List.mem_filter.mp (List.mem_eraseDups.mp hm)
          have hne : name ≠ front := by
            rintro rfl
            simp at hq
          exact precedes_of_front hstands (hother name hm hne)
        · refine hlater _ fun name hm => ?_
          obtain ⟨hm, hq⟩ := List.mem_filter.mp hm
          refine hother name hm ?_
          rintro rfl
          simp at hq
      · rw [List.filter_cons_of_neg hp]
        refine hlater p fun name hm => ?_
        obtain ⟨hm, hq⟩ := List.mem_filter.mp hm
        refine hother name hm ?_
        rintro rfl
        exact hp hq

/-! ### The placeholders of a text -/

variable {text : List Char} {names : List (List Char)}

theorem listsPlaceholders_placeholders (text : List Char) :
    ListsPlaceholders text (placeholders text) where
  distinct := nodup_placeholders text
  mem_iff _ := mem_placeholders.trans hasPlaceholder_iff_standsAt
  ordered := by
    have hall := ordered_occurrences text fun _ => true
    rwa [List.filter_true] at hall

theorem Precedes.asymm {name other : List Char} (h : Precedes text name other) :
    ¬ Precedes text other name := by
  rintro ⟨j, hj, hother⟩
  obtain ⟨i, hi, hname⟩ := h
  exact Nat.lt_asymm (hname j hj) (hother i hi)

/-- The places leave no choice of a list. -/
theorem ListsPlaceholders.unique {others : List (List Char)} (h : ListsPlaceholders text names)
    (h' : ListsPlaceholders text others) : names = others := by
  have hperm : names.Perm others :=
    (List.perm_ext_iff_of_nodup h.distinct h'.distinct).mpr fun name =>
      (h.mem_iff name).trans (h'.mem_iff name).symm
  exact hperm.eq_of_pairwise (fun _ _ _ _ hab hba => absurd hba hab.asymm) h.ordered h'.ordered

/-- The placeholders of a text are the names that stand between braces somewhere in it, whatever
other braces are around them, each once and in the order in which they first do; and one pass that
reads whole groups finds them. -/
theorem placeholders_listed (text : List Char) :
    (∀ names, placeholders text = names ↔ ListsPlaceholders text names) ∧
      scan [] text = placeholders text := by
  have hlisted := listsPlaceholders_placeholders text
  refine ⟨fun names => ⟨?_, hlisted.unique⟩, ?_⟩
  · rintro rfl
    exact hlisted
  · rw [scan_eq, placeholders]
    simp

end RestClient.Template
