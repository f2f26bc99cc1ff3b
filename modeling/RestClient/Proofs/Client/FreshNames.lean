import Mathlib.Algebra.Group.Nat.Defs
import Mathlib.Data.List.Nodup
import Mathlib.Data.List.Perm.Subperm
import RestClient.Client.FreshName

/-!
# Fresh names are free

A name that is allocated is not taken. Behind a taken name stand so many letters that the names in
use cannot fill all words of that length; a free one is left, whatever the generator draws.

## Main definitions

- `NameSupply.allocateAll` — several names, one after the other
-/

namespace RestClient

/-! ### Words -/

theorem mem_words_succ {n : Nat} {c : Char} {w : List Char} :
    c :: w ∈ words (n + 1) ↔ (∃ i < 26, Char.ofNat (0x61 + i) = c) ∧ w ∈ words n := by
  simp [words]

theorem length_words (n : Nat) : (words n).length = 26 ^ n := by
  induction n with
  | zero => rfl
  | succ n ih =>
    simp only [words, List.length_flatMap, List.length_map, ih, List.map_const',
      List.length_range, List.sum_replicate_nat, Nat.pow_succ, Nat.mul_comm]

/-- A word is made of lower-case letters. -/
theorem exists_of_mem_words {n : Nat} {w : List Char} (h : w ∈ words n) {c : Char} (hc : c ∈ w) :
    ∃ i < 26, Char.ofNat (0x61 + i) = c := by
  induction n generalizing w with
  | zero =>
    obtain rfl : w = [] := by simpa [words] using h
    cases hc
  | succ n ih =>
    cases w with
    | nil => cases hc
    | cons d w =>
      obtain ⟨hd, hw⟩ := mem_words_succ.mp h
      rcases List.mem_cons.mp hc with rfl | hc
      · exact hd
      · exact ih hw hc

theorem letters_nodup : ((List.range 26).map fun i => Char.ofNat (0x61 + i)).Nodup := by
  decide

theorem nodup_words (n : Nat) : (words n).Nodup := by
  induction n with
  | zero => simp [words]
  | succ n ih =>
    rw [words, List.nodup_flatMap]
    refine ⟨fun c _ => ih.map (List.cons_injective), letters_nodup.imp ?_⟩
    -- words that start with different letters are different
    intro c d hne w hc hd
    obtain ⟨v, _, rfl⟩ := List.mem_map.mp hc
    obtain ⟨v', _, he⟩ := List.mem_map.mp hd
    exact hne (List.cons.inj he).1.symm

namespace Letters

theorem letter_eq (g : Letters) : ∃ i < 26, Char.ofNat (0x61 + i) = g.letter.1 :=
  ⟨g.draw.1 % 26, Nat.mod_lt _ (by decide), rfl⟩

theorem take_mem_words (n : Nat) (g : Letters) : (take n g).1 ∈ words n := by
  induction n generalizing g with
  | zero => exact List.mem_singleton.mpr rfl
  | succ n ih => exact mem_words_succ.mpr ⟨letter_eq g, ih _⟩

end Letters

/-! ### Decorated names -/

theorem toList_decorated (preferred : String) (w : List Char) :
    (decorated preferred w).toList = preferred.toList ++ '_' :: w := by
  simp [decorated]

theorem decorated_injective (preferred : String) : (decorated preferred).Injective := by
  intro v w h
  have hlist := congrArg String.toList h
  simpa [toList_decorated] using hlist

/-- How many names in use start with the preferred one. -/
def conflicts (preferred : String) (taken : List String) : Nat :=
  (taken.filter fun name => preferred.toList.isPrefixOf name.toList).length

/-- No more different words can be taken than names in use start with the preferred one. -/
theorem length_le_conflicts {preferred : String} {taken : List String} {ws : List (List Char)}
    (hnodup : ws.Nodup) (htaken : ∀ w ∈ ws, decorated preferred w ∈ taken) :
    ws.length ≤ conflicts preferred taken := by
  have hsubset : ws.map (decorated preferred) ⊆
      taken.filter fun name => preferred.toList.isPrefixOf name.toList := by
    intro name hname
    obtain ⟨w, hw, rfl⟩ := List.mem_map.mp hname
    refine List.mem_filter.mpr ⟨htaken w hw, ?_⟩
    simp [toList_decorated]
  have hlength := (List.subperm_of_subset (hnodup.map (decorated_injective preferred))
    hsubset).length_le
  rwa [List.length_map] at hlength

/-- There are more words than names in use that start with the preferred one, so some decorated
name is free. -/
theorem exists_free_word (preferred : String) (taken : List String) :
    ∃ w ∈ words (decorationSize preferred taken), decorated preferred w ∉ taken := by
  by_contra hnone
  push Not at hnone
  have hle := length_le_conflicts (nodup_words (decorationSize preferred taken)) hnone
  have hsize : decorationSize preferred taken = conflicts preferred taken / 26 + 1 + 1 := rfl
  have hpow : conflicts preferred taken / 26 + 1 < 26 ^ (conflicts preferred taken / 26 + 1) :=
    Nat.lt_pow_self (by decide)
  rw [length_words, hsize, Nat.pow_succ] at hle
  omega

/-! ### Allocation -/

/-- What is drawn is a decorated name that is free. -/
theorem drawFree_free {preferred : String} {taken : List String} {size : Nat}
    (hfree : ∃ w ∈ words size, decorated preferred w ∉ taken) (fuel : Nat) (g : Letters) :
    ∃ w ∈ words size, (drawFree preferred taken size fuel g).1 = decorated preferred w ∧
      decorated preferred w ∉ taken := by
  induction fuel generalizing g with
  | zero =>
    obtain ⟨w, hw, hn⟩ := hfree
    have hsome : ((words size).find? fun w => !taken.contains (decorated preferred w)).isSome := by
      rw [List.find?_isSome]
      exact ⟨w, hw, by simpa using hn⟩
    obtain ⟨v, hv⟩ := Option.isSome_iff_exists.mp hsome
    refine ⟨v, List.mem_of_find?_eq_some hv, ?_, by simpa using List.find?_some hv⟩
    rw [drawFree, hv]
    rfl
  | succ fuel ih =>
    rw [drawFree]
    dsimp only
    split
    · exact ih _
    · next hn => exact ⟨_, Letters.take_mem_words size g, rfl, by simpa using hn⟩

/-- A free name is kept, and a taken one is decorated; either way the result is free. -/
theorem allocate_free (preferred : String) (taken : List String) (g : Letters) :
    (allocate preferred taken g).1 ∉ taken ∧
      ((preferred ∉ taken ∧ (allocate preferred taken g).1 = preferred) ∨
        (preferred ∈ taken ∧ ∃ w ∈ words (decorationSize preferred taken),
          (allocate preferred taken g).1 = decorated preferred w)) := by
  unfold allocate
  -- how often is drawn does not matter
  generalize Nat.pow 2 64 = fuel
  split
  · next htaken =>
    obtain ⟨w, hw, he, hn⟩ := drawFree_free (exists_free_word preferred taken) fuel g
    exact ⟨by rwa [he], .inr ⟨by simpa using htaken, w, hw, he⟩⟩
  · next hfree =>
    have hn : preferred ∉ taken := by simpa using hfree
    exact ⟨hn, .inl ⟨hn, rfl⟩⟩

namespace NameSupply

/-- Names that are allocated one after the other. -/
def allocateAll : List String → NameSupply → List String × NameSupply
  | [], s => ([], s)
  | preferred :: rest, s =>
    let (name, s) := s.allocate preferred
    let (names, s) := allocateAll rest s
    (name :: names, s)

/-- A name comes from a preferred one: it is the same, or has letters behind it. -/
def ComesFrom (preferred name : String) : Prop :=
  name = preferred ∨ ∃ w, name = decorated preferred w

/-- What is allocated was not in use, and comes from the preferred name. -/
theorem allocate_spec (preferred : String) (s : NameSupply) :
    (s.allocate preferred).1 ∉ s.taken ∧ ComesFrom preferred (s.allocate preferred).1 := by
  obtain ⟨hfree, ⟨_, he⟩ | ⟨_, w, _, he⟩⟩ := allocate_free preferred s.taken s.letters
  · exact ⟨hfree, .inl he⟩
  · exact ⟨hfree, .inr ⟨w, he⟩⟩

/-- Names in a row are free, different from each other, and come from the preferred ones; a
preferred name is kept where neither the names in use nor those in front of it are in its way. -/
structure Allocated (preferred : List String) (s : NameSupply) (names : List String) : Prop where
  nodup : names.Nodup
  free : ∀ name ∈ names, name ∉ s.taken
  comesFrom : List.Forall₂ ComesFrom preferred names
  kept : ∀ name ∈ preferred, name ∉ s.taken →
    (∀ p ∈ preferred, p ≠ name → ∀ w, decorated p w ≠ name) → name ∈ names

theorem allocateAll_allocated (preferred : List String) (s : NameSupply) :
    Allocated preferred s (allocateAll preferred s).1 := by
  induction preferred generalizing s with
  | nil => exact ⟨List.nodup_nil, by simp [allocateAll], .nil, by simp⟩
  | cons p rest ih =>
    obtain ⟨hfree, hname⟩ := allocate_free p s.taken s.letters
    -- the first name is in use when the others are allocated
    let name := (RestClient.allocate p s.taken s.letters).1
    have h := ih (s.allocate p).2
    have hfrom : ComesFrom p name := (allocate_spec p s).2
    have hother : ∀ other ∈ (allocateAll rest (s.allocate p).2).1, other ∉ s.taken ++ [name] :=
      h.free
    refine ⟨?_, ?_, .cons hfrom h.comesFrom, ?_⟩
    · refine List.nodup_cons.mpr ⟨fun hm => ?_, h.nodup⟩
      exact hother name hm (by simp)
    · intro other hm
      rcases List.mem_cons.mp hm with rfl | hm
      · exact hfree
      · exact fun ht => hother other hm (List.mem_append_left _ ht)
    · intro kept hm hn hdecorated
      by_cases he : name = kept
      · exact List.mem_cons.mpr (.inl he.symm)
      · have hp : p ≠ kept := by
          rintro rfl
          rcases hname with ⟨_, hk⟩ | ⟨ht, _⟩
          · exact he hk
          · exact hn ht
        have hm : kept ∈ rest := by
          rcases List.mem_cons.mp hm with rfl | hm
          · exact absurd rfl hp
          · exact hm
        refine List.mem_cons_of_mem _ (h.kept kept hm ?_ ?_)
        · intro ht
          rcases List.mem_append.mp ht with ht | ht
          · exact hn ht
          · exact he (List.mem_singleton.mp ht).symm
        · exact fun q hq => hdecorated q (List.mem_cons_of_mem _ hq)

end NameSupply

end RestClient
