import RestClient.Text.Basic

/-!
# Segments of what is written

A list cut at a separator is the library's `List.splitOn`. Where every member of a list is written
out and only the separator as the separator, the segments are written out one by one.

## Main results

- `segments_eq_splitOn` — segments in the words of the library
- `segments_flatMap` — the segments of a list that is written out
- `takeWhile_flatMap` — the front of a list that is written out
-/

namespace RestClient.Text

variable {α β : Type} [BEq α] [BEq β]

theorem segments_eq_splitOn (sep : α) (xs : List α) : segments sep xs = xs.splitOn sep := by
  induction xs with
  | nil => rfl
  | cons x xs ih =>
    rw [segments, ih, List.splitOn, List.splitOn, List.splitOnP_cons_eq_if_modifyHead]
    split
    · rfl
    · cases hcut : xs.splitOnP (· == sep) with
      | nil => exact absurd hcut (List.splitOnP_ne_nil _ xs)
      | cons piece pieces => rfl

variable [LawfulBEq α] [LawfulBEq β]

theorem segments_cons_self (sep : α) (xs : List α) :
    segments sep (sep :: xs) = [] :: segments sep xs := by
  rw [segments, if_pos (beq_self_eq_true sep)]

omit [BEq β] [LawfulBEq α] [LawfulBEq β] in
/-- A segment has only members of the list. -/
theorem mem_of_mem_segments {sep x : α} {xs s : List α} (hs : s ∈ segments sep xs) (hx : x ∈ s) :
    x ∈ xs := by
  induction xs generalizing s with
  | nil =>
    obtain rfl := List.mem_singleton.mp hs
    cases hx
  | cons y ys ih =>
    rw [segments] at hs
    split at hs
    · rcases List.mem_cons.mp hs with rfl | hs
      · cases hx
      · exact List.mem_cons_of_mem y (ih hs hx)
    · split at hs
      · obtain rfl := List.mem_singleton.mp hs
        simpa using .inl (List.mem_singleton.mp hx)
      · next piece pieces hcut =>
        rcases List.mem_cons.mp hs with rfl | hs
        · rcases List.mem_cons.mp hx with rfl | hx
          · exact List.mem_cons_self
          · exact List.mem_cons_of_mem y (ih (by rw [hcut]; exact List.mem_cons_self) hx)
        · exact List.mem_cons_of_mem y (ih (by rw [hcut]; exact List.mem_cons_of_mem _ hs) hx)

/-- What stands in front of the first separator belongs to the first segment. -/
theorem segments_append {sep : α} {xs : List α} (h : sep ∉ xs) (ys : List α) :
    segments sep (xs ++ ys) = (segments sep ys).modifyHead (xs ++ ·) := by
  induction xs with
  | nil => exact (congrFun List.modifyHead_id (segments sep ys)).symm
  | cons x xs ih =>
    have hx : ¬ (x == sep) = true := by
      rintro he
      rw [beq_iff_eq] at he
      simp [he] at h
    rw [segments_eq_splitOn, List.cons_append, List.splitOn,
      List.splitOnP_cons_eq_if_modifyHead, if_neg hx, ← List.splitOn, ← segments_eq_splitOn,
      ih (by simp_all), List.modifyHead_modifyHead]
    rfl

/-- The segments of a list that is written out are its own segments written out, when only the
separator is written as the separator. -/
theorem segments_flatMap {write : α → List β} {a : α} {b : β} {xs : List α} (ha : write a = [b])
    (hxs : ∀ x ∈ xs, x ≠ a → b ∉ write x) :
    segments b (xs.flatMap write) = (segments a xs).map (·.flatMap write) := by
  induction xs with
  | nil => rfl
  | cons x xs ih =>
    have ih := ih fun y hy => hxs y (List.mem_cons_of_mem x hy)
    rw [List.flatMap_cons]
    by_cases hx : x = a
    · subst hx
      rw [ha, List.singleton_append, segments_cons_self, segments_cons_self, ih]
      rfl
    · have hne : a ∉ [x] := by
        simpa using Ne.symm hx
      have hcons : segments a (x :: xs) = (segments a xs).modifyHead ([x] ++ ·) :=
        segments_append hne xs
      rw [segments_append (hxs x List.mem_cons_self hx), hcons, ih]
      cases segments a xs <;> simp

omit [BEq α] [BEq β] [LawfulBEq α] [LawfulBEq β] in
/-- A scan over a list that is written out goes as far as a scan over the list, when a member that
stops the one is written with a beginning that stops the other. -/
theorem takeWhile_flatMap {write : α → List β} {p : α → Bool} {q : β → Bool} {xs : List α}
    (hgo : ∀ x ∈ xs, p x = true → ∀ y ∈ write x, q y = true)
    (hstop : ∀ x ∈ xs, p x = false → ∃ y ys, write x = y :: ys ∧ q y = false) :
    (xs.flatMap write).takeWhile q = (xs.takeWhile p).flatMap write := by
  induction xs with
  | nil => rfl
  | cons x xs ih =>
    rw [List.flatMap_cons]
    cases hx : p x with
    | true =>
      have ih := ih (fun y hy => hgo y (List.mem_cons_of_mem x hy))
        fun y hy => hstop y (List.mem_cons_of_mem x hy)
      rw [List.takeWhile_append_of_pos (hgo x List.mem_cons_self hx), ih,
        List.takeWhile_cons_of_pos hx, List.flatMap_cons]
    | false =>
      obtain ⟨y, ys, hwrite, hy⟩ := hstop x List.mem_cons_self hx
      rw [hwrite, List.cons_append, List.takeWhile_cons_of_neg (by simp [hy]),
        List.takeWhile_cons_of_neg (by simp [hx])]
      rfl

end RestClient.Text
