import Mathlib.Data.Fintype.Pigeonhole
import RestClient.Proofs.Client.FreshNames

/-!
# The search for a fresh name

Behind a taken name candidates are drawn until one is free. Too few names are in use to take all
candidates, so only a generator that repeats itself could keep the search from its end: one that
draws no more different words than there are names in the way.

The generator comes back to a state of before after as many draws as it has states. So a search that
ends at all ends within as many attempts, and then it is the one that `allocate` makes.

## Main definitions

- `Letters.after`, `Letters.word` — the words that are drawn one after the other
- `EndsAt` — the attempt with which a search ends

## Main results

- `EndsAt.allocate_eq` — a search that ends gives the name that is allocated
- `allocated_names_fresh` — names that are allocated, and that there always is one
-/

namespace RestClient

/-! ### Words in a row -/

namespace Letters

/-- The state after `n` words of `size` letters. -/
def after (size n : Nat) (g : Letters) : Letters :=
  (fun h => (take size h).2)^[n] g

/-- The word of `size` letters that is drawn after `n` others. -/
def word (size n : Nat) (g : Letters) : List Char :=
  (take size (g.after size n)).1

theorem after_succ (size n : Nat) (g : Letters) :
    g.after size (n + 1) = (take size g).2.after size n :=
  Function.iterate_succ_apply _ n g

theorem word_succ (size n : Nat) (g : Letters) :
    g.word size (n + 1) = (take size g).2.word size n := by
  rw [word, after_succ, word]

theorem after_add (size m n : Nat) (g : Letters) :
    g.after size (m + n) = (g.after size n).after size m :=
  Function.iterate_add_apply _ m n g

/-- A state comes up twice before all states can have come up. -/
theorem exists_after_eq (size : Nat) (g : Letters) :
    ∃ m n, m < n ∧ n ≤ UInt64.size ∧ g.after size m = g.after size n := by
  let state (i : Fin (UInt64.size + 1)) : Fin UInt64.size := (g.after size i).state.toFin
  have hcard : Fintype.card (Fin UInt64.size) < Fintype.card (Fin (UInt64.size + 1)) := by
    rw [Fintype.card_fin, Fintype.card_fin]
    exact Nat.lt_succ_self _
  obtain ⟨i, j, hne, hstate⟩ := Fintype.exists_ne_map_eq_of_card_lt state hcard
  have hsame : g.after size i = g.after size j :=
    congrArg Letters.mk (UInt64.toFin_inj.mp hstate)
  rcases Nat.lt_or_gt_of_ne (Fin.val_ne_of_ne hne) with hlt | hlt
  · exact ⟨i, j, hlt, Nat.le_of_lt_succ j.isLt, hsame⟩
  · exact ⟨j, i, hlt, Nat.le_of_lt_succ i.isLt, hsame.symm⟩

/-- Every state that comes up comes up among the first ones. -/
theorem exists_lt_after_eq (size n : Nat) (g : Letters) :
    ∃ m < UInt64.size, g.after size n = g.after size m := by
  obtain ⟨first, second, hlt, hle, hsame⟩ := exists_after_eq size g
  induction n using Nat.strong_induction_on with
  | h n ih =>
    rcases Nat.lt_or_ge n UInt64.size with hn | hn
    · exact ⟨n, hn, rfl⟩
    · -- what comes after the second time has come after the first one
      obtain ⟨k, rfl⟩ := Nat.exists_eq_add_of_le' (hle.trans hn)
      obtain ⟨m, hm, he⟩ := ih (k + first) (by omega)
      exact ⟨m, hm, by rw [after_add, ← hsame, ← after_add, he]⟩

end Letters

/-! ### The search -/

section

variable {preferred : String} {taken : List String} {g : Letters}

/-- The candidate that is drawn after `n` others. -/
def candidate (preferred : String) (taken : List String) (g : Letters) (n : Nat) : String :=
  decorated preferred (g.word (decorationSize preferred taken) n)

/-- The search for a free name ends with a candidate: this one is free, and those before it have
been taken. -/
structure EndsAt (preferred : String) (taken : List String) (g : Letters) (n : Nat) : Prop where
  refused : ∀ m < n, candidate preferred taken g m ∈ taken
  free : candidate preferred taken g n ∉ taken

/-- With enough fuel the first free candidate is the one that is drawn. -/
theorem drawFree_of_refused {size n fuel : Nat} (hn : n < fuel)
    (hrefused : ∀ m < n, decorated preferred (g.word size m) ∈ taken)
    (hfree : decorated preferred (g.word size n) ∉ taken) :
    drawFree preferred taken size fuel g =
      (decorated preferred (g.word size n), g.after size (n + 1)) := by
  induction n generalizing g fuel with
  | zero =>
    obtain ⟨fuel, rfl⟩ := Nat.exists_eq_succ_of_ne_zero (Nat.ne_zero_of_lt hn)
    have hfirst : decorated preferred (Letters.take size g).1 ∉ taken := hfree
    rw [drawFree]
    dsimp only
    exact if_neg (by simpa using hfirst)
  | succ n ih =>
    obtain ⟨fuel, rfl⟩ := Nat.exists_eq_succ_of_ne_zero (Nat.ne_zero_of_lt hn)
    have hfirst : decorated preferred (Letters.take size g).1 ∈ taken := hrefused 0 (Nat.succ_pos n)
    rw [Letters.word_succ] at hfree ⊢
    rw [Letters.after_succ, drawFree]
    dsimp only
    rw [if_pos (List.contains_iff_mem.mpr hfirst)]
    refine ih (Nat.lt_of_succ_lt_succ hn) (fun m hm => ?_) hfree
    rw [← Letters.word_succ]
    exact hrefused (m + 1) (Nat.succ_lt_succ hm)

/-- A search that ends does so before all states have come up. -/
theorem EndsAt.lt {n : Nat} (h : EndsAt preferred taken g n) : n < UInt64.size := by
  obtain ⟨m, hm, hsame⟩ := g.exists_lt_after_eq (decorationSize preferred taken) n
  have hcandidate : candidate preferred taken g n = candidate preferred taken g m := by
    rw [candidate, Letters.word, hsame, ← Letters.word, ← candidate]
  refine lt_of_not_ge fun hn => h.free ?_
  rw [hcandidate]
  exact h.refused m (lt_of_lt_of_le hm hn)

/-- Where a search ends, the name with which it ends is allocated. -/
theorem EndsAt.allocate_eq {n : Nat} (h : EndsAt preferred taken g n) (htaken : preferred ∈ taken) :
    allocate preferred taken g = (candidate preferred taken g n,
      g.after (decorationSize preferred taken) (n + 1)) := by
  have hn : n < Nat.pow 2 64 := h.lt.trans_eq (by decide)
  unfold allocate
  generalize Nat.pow 2 64 = fuel at hn ⊢
  rw [if_pos (List.contains_iff_mem.mpr htaken)]
  exact drawFree_of_refused hn h.refused h.free

/-- A search ends where a free candidate is drawn at some time. -/
theorem exists_endsAt_iff :
    (∃ n, EndsAt preferred taken g n) ↔ ∃ n, candidate preferred taken g n ∉ taken := by
  classical
  constructor
  · exact fun ⟨n, h⟩ => ⟨n, h.free⟩
  · intro h
    exact ⟨Nat.find h, fun m hm => not_not.mp (Nat.find_min h hm), Nat.find_spec h⟩

/-- A search that does not end sees no more different words than there are names in the way. -/
theorem length_le_of_endless (hendless : ∀ n, ¬ EndsAt preferred taken g n) {attempts : List Nat}
    (hdifferent : (attempts.map fun n => g.word (decorationSize preferred taken) n).Nodup) :
    attempts.length ≤ conflicts preferred taken := by
  have htaken (n : Nat) : candidate preferred taken g n ∈ taken := by
    by_contra hfree
    obtain ⟨m, hm⟩ := exists_endsAt_iff.mpr ⟨n, hfree⟩
    exact hendless m hm
  have hle := length_le_conflicts hdifferent fun w hw => by
    obtain ⟨n, -, rfl⟩ := List.mem_map.mp hw
    exact htaken n
  rwa [List.length_map] at hle

end

/-! ### Names in a row -/

/-- A name in use with a low line and `size` lower-case letters behind it. -/
def IsDecorated (preferred : String) (size : Nat) (name : String) : Prop :=
  ∃ letters : List Char, letters.length = size ∧ (∀ c ∈ letters, 'a' ≤ c ∧ c ≤ 'z') ∧
    name = preferred ++ "_" ++ String.ofList letters

theorem length_of_mem_words {n : Nat} {w : List Char} (h : w ∈ words n) : w.length = n := by
  induction n generalizing w with
  | zero =>
    obtain rfl : w = [] := by simpa [words] using h
    rfl
  | succ n ih =>
    cases w with
    | nil => simp [words] at h
    | cons c w => rw [List.length_cons, ih (mem_words_succ.mp h).2]

theorem isDecorated_of_mem_words (preferred : String) {n : Nat} {w : List Char} (h : w ∈ words n) :
    IsDecorated preferred n (decorated preferred w) := by
  refine ⟨w, length_of_mem_words h, fun c hc => ?_, rfl⟩
  obtain ⟨i, hi, rfl⟩ := exists_of_mem_words h hc
  have hall : ∀ i < 26, 'a' ≤ Char.ofNat (0x61 + i) ∧ Char.ofNat (0x61 + i) ≤ 'z' := by decide
  exact hall i hi

theorem decorated_ne (preferred : String) (letters : List Char) :
    decorated preferred letters ≠ preferred := by
  intro h
  have hlength := congrArg (fun name => name.toList.length) h
  simp [toList_decorated] at hlength

/-- The names in use are those of before and those that have been allocated. -/
theorem NameSupply.taken_allocateAll (preferred : List String) (s : NameSupply) :
    (allocateAll preferred s).2.taken = s.taken ++ (allocateAll preferred s).1 := by
  induction preferred generalizing s with
  | nil => simp [allocateAll]
  | cons p rest ih =>
    have hfirst : (s.allocate p).2.taken = s.taken ++ [(s.allocate p).1] := rfl
    rw [allocateAll]
    dsimp only
    rw [ih, hfirst, List.append_assoc, List.singleton_append]

/-- What is allocated is free. It is the preferred name unless this one is taken, and then has
letters behind it, two and one more for every 26 names in the way. A name of this form is always
free; where the search for it ends, it ends with the name that is allocated, and where it does not
end, no more different words are ever drawn than names are in the way. Names in a row are different
from each other and from all that were in use before. -/
theorem allocated_names_fresh (preferred : String) (taken : List String) (g : Letters) :
    let name := (allocate preferred taken g).1
    let size := conflicts preferred taken / 26 + 2
    name ∉ taken ∧ (name = preferred ↔ preferred ∉ taken) ∧
    (preferred ∈ taken → IsDecorated preferred size name) ∧
    (∃ free, free ∉ taken ∧ IsDecorated preferred size free) ∧
    (preferred ∈ taken → ∀ n, EndsAt preferred taken g n →
      allocate preferred taken g = (candidate preferred taken g n, g.after size (n + 1))) ∧
    ((∀ n, ¬ EndsAt preferred taken g n) → ∀ attempts : List Nat,
      (attempts.map fun n => g.word size n).Nodup →
        attempts.length ≤ conflicts preferred taken) ∧
    ∀ names, let allocated := NameSupply.allocateAll names ⟨g, taken⟩
      allocated.1.length = names.length ∧ allocated.1.Nodup ∧
        (∀ other ∈ allocated.1, other ∉ taken) ∧ allocated.2.taken = taken ++ allocated.1 := by
  intro name size
  obtain ⟨hfree, hcases⟩ := allocate_free preferred taken g
  obtain ⟨w, hw, hwfree⟩ := exists_free_word preferred taken
  refine ⟨hfree, ?_, fun htaken => ?_, ⟨_, hwfree, isDecorated_of_mem_words preferred hw⟩,
    fun htaken n h => h.allocate_eq htaken, fun hendless _ => length_le_of_endless hendless,
    fun names => ?_⟩
  · rcases hcases with ⟨hn, hkept⟩ | ⟨htaken, w, -, hdecorated⟩
    · exact iff_of_true hkept hn
    · exact iff_of_false (fun hkept => decorated_ne preferred w (hdecorated.symm.trans hkept))
        (not_not_intro htaken)
  · rcases hcases with ⟨hn, -⟩ | ⟨-, w, hw, hdecorated⟩
    · exact absurd htaken hn
    · show IsDecorated preferred size (allocate preferred taken g).1
      rw [hdecorated]
      exact isDecorated_of_mem_words preferred hw
  · have h := NameSupply.allocateAll_allocated names ⟨g, taken⟩
    exact ⟨h.comesFrom.length_eq.symm, h.nodup, h.free, NameSupply.taken_allocateAll names _⟩

/-- The name of a request where it is taken, with the first letters of the generator. -/
theorem allocated_names_fresh_request :
    "request" ∈ ["request", "self"] ∧ EndsAt "request" ["request", "self"] .initial 0 ∧
      allocate "request" ["request", "self"] .initial =
        (candidate "request" ["request", "self"] .initial 0, Letters.initial.after 2 1) ∧
      IsDecorated "request" 2 (allocate "request" ["request", "self"] .initial).1 := by
  have htaken : "request" ∈ ["request", "self"] := by decide
  have hends : EndsAt "request" ["request", "self"] .initial 0 :=
    ⟨fun m hm => absurd hm (Nat.not_lt_zero m), by decide⟩
  have hsize : conflicts "request" ["request", "self"] / 26 + 2 = 2 := by decide
  obtain ⟨-, -, hdecorated, -, hsearch, -⟩ :=
    allocated_names_fresh "request" ["request", "self"] .initial
  rw [hsize] at hdecorated hsearch
  exact ⟨htaken, hends, hsearch htaken 0 hends, hdecorated htaken⟩

end RestClient
