import RestClient.Client.RequestPlan

/-!
# Code without a field

Code names a field of the client where the field stands behind `self` and a dot. Pieces of code that
name it nowhere can be put together, unless one of them ends where the next one goes on with the
field. A word that is written out tells where that cannot be; a name of whatever kind cannot do so
between two such words.

## Main definitions

- `Clear` — code that names a field nowhere, and does not go on with it either
- `Free` — code that stays so in front of clear code
- `FreeBehind` — code that is free behind a word

## Main results

- `Free.append` — free code is put together
- `Free.cons`, `Free.name`, `Free.dot`, `Free.before` — words and names in free code
- `free_angles` — types in free code
-/

namespace RestClient

open Code (PlainCode)
open Emission

/-- Code that names a field nowhere, and does not begin with what names it behind the client. -/
structure Clear (f : String) (code : PlainCode) : Prop where
  silent : ¬ fieldCode f <:+: code
  start : ¬ [".", f] <+: code

theorem clear_nil (f : String) : Clear f [] := by
  constructor <;> simp [fieldCode]

/-- Code that names a field nowhere, whatever clear code comes behind it. -/
def Free (f : String) (code : PlainCode) : Prop :=
  ∀ rest, Clear f rest → Clear f (code ++ rest)

section Free

variable {f word : String} {code more : PlainCode}

theorem Free.silent (h : Free f code) : ¬ fieldCode f <:+: code := by
  simpa using (h [] (clear_nil f)).silent

theorem free_nil : Free f [] :=
  fun _ h => h

theorem Free.append (h : Free f code) (h' : Free f more) : Free f (code ++ more) := by
  intro rest hrest
  rw [List.append_assoc]
  exact h _ (h' _ hrest)

/-- A word that is not the client keeps code silent, and so does any word in front of code that does
not go on with the field. -/
theorem silent_cons (hcode : ¬ fieldCode f <:+: code) (h : word = "self" → ¬ [".", f] <+: code) :
    ¬ fieldCode f <:+: word :: code := by
  rw [List.infix_cons_iff, fieldCode, List.cons_prefix_cons]
  rintro (⟨he, hprefix⟩ | hinfix)
  · exact h he.symm hprefix
  · exact hcode hinfix

/-- A word that is neither the client nor a dot. -/
theorem Free.cons (h : Free f code) (hword : word ≠ "self" ∧ word ≠ ".") :
    Free f (word :: code) := by
  intro rest hrest
  refine ⟨silent_cons (h rest hrest).silent fun he => absurd he hword.1, ?_⟩
  rw [List.cons_append, List.cons_prefix_cons]
  exact fun he => hword.2 he.1.symm

/-- A name of whatever kind behind a word. -/
theorem Free.name (h : Free f code) (hword : word ≠ "self" ∧ word ≠ ".") (name : String) :
    Free f (word :: name :: code) := by
  intro rest hrest
  have hcode := h rest hrest
  refine ⟨silent_cons (silent_cons hcode.silent fun _ => hcode.start)
    fun he => absurd he hword.1, ?_⟩
  rw [List.cons_append, List.cons_prefix_cons]
  exact fun he => hword.2 he.1.symm

/-- A dot with a word that is not the field. -/
theorem Free.dot (h : Free f code) (hword : word ≠ f) : Free f ("." :: word :: code) := by
  intro rest hrest
  have hcode := h rest hrest
  refine ⟨silent_cons (silent_cons hcode.silent fun _ => hcode.start) (by simp), ?_⟩
  rw [List.cons_append, List.cons_prefix_cons, List.cons_append, List.cons_prefix_cons]
  exact fun he => hword he.2.1.symm

/-- A name of whatever kind, and behind it a dot with a word that is not the field. -/
theorem Free.dotted (h : Free f code) (hword : word ≠ f) (hdot : "." ≠ f) (name : String) :
    Free f (name :: "." :: word :: code) := by
  intro rest hrest
  have hcode := h.dot hword rest hrest
  refine ⟨silent_cons hcode.silent fun _ => hcode.start, ?_⟩
  rw [List.cons_append, List.cons_prefix_cons, List.cons_append, List.cons_prefix_cons]
  exact fun he => hdot he.2.1.symm

theorem free_words (h : "self" ∉ code ∧ "." ∉ code) : Free f code := by
  induction code with
  | nil => exact free_nil
  | cons word code ih =>
    simp only [List.mem_cons, not_or] at h
    exact (ih ⟨h.1.2, h.2.2⟩).cons ⟨fun he => h.1.1 he.symm, fun he => h.2.1 he.symm⟩

theorem free_parens (h : Free f code) : Free f (parens code) :=
  Free.append (h.cons (by decide)) (free_words (by decide))

theorem free_braces (h : Free f code) : Free f (braces code) :=
  Free.append (h.cons (by decide)) (free_words (by decide))

/-- Code that names no field stays silent in front of a word that does not go on with one. -/
theorem silent_append (hcode : ¬ fieldCode f <:+: code)
    (hword : word ≠ "self" ∧ word ≠ "." ∧ word ≠ f) (hmore : ¬ fieldCode f <:+: more) :
    ¬ fieldCode f <:+: code ++ word :: more := by
  induction code with
  | nil => exact silent_cons hmore fun he => absurd he hword.1
  | cons w code ih =>
    have hrest : ¬ fieldCode f <:+: code := fun h => hcode (List.infix_cons h)
    rw [List.cons_append]
    refine silent_cons (ih hrest) ?_
    rintro rfl hprefix
    -- the name of the field would have to end in front of the word
    refine hcode (List.IsPrefix.isInfix ?_)
    rcases code with _ | ⟨x, _ | ⟨y, code⟩⟩
    · simp only [List.nil_append, List.cons_prefix_cons] at hprefix
      exact absurd hprefix.1.symm hword.2.1
    · simp only [List.cons_append, List.nil_append, List.cons_prefix_cons] at hprefix
      exact absurd hprefix.2.1.symm hword.2.2
    · simpa [fieldCode] using hprefix

/-- A name of whatever kind in front of a word that does not go on with the field. -/
theorem Free.before (h : Free f (word :: code)) (hword : word ≠ "." ∧ word ≠ f) (name : String) :
    Free f (name :: word :: code) := by
  intro rest hrest
  refine ⟨silent_cons (h rest hrest).silent fun _ => (h rest hrest).start, ?_⟩
  rw [List.cons_append, List.cons_prefix_cons, List.cons_append, List.cons_prefix_cons]
  exact fun he => hword.2 he.2.1.symm

/-- Types name what they name, and end there. -/
theorem free_angles (hcode : ¬ fieldCode f <:+: code) (hend : ">" ≠ f) : Free f (angles code) := by
  intro rest hrest
  have hassoc : angles code ++ rest = "<" :: (code ++ ">" :: rest) := by simp [angles]
  rw [hassoc]
  refine ⟨silent_cons (silent_append hcode ⟨by decide, by decide, hend⟩ hrest.silent) (by simp), ?_⟩
  rw [List.cons_prefix_cons]
  simp

/-- A member of something that is not the field of the client. -/
theorem free_member {owner name : String} (h : ¬ fieldCode f <:+: [owner, ".", name])
    (hdot : "." ≠ f) : Free f [owner, ".", name] := by
  intro rest hrest
  have hname : ¬ fieldCode f <:+: "." :: name :: rest :=
    silent_cons (silent_cons hrest.silent fun _ => hrest.start) (by simp)
  refine ⟨silent_cons hname ?_, ?_⟩
  · rintro rfl hprefix
    refine h (List.IsPrefix.isInfix ?_)
    simpa [fieldCode] using hprefix
  · intro hprefix
    simp only [List.cons_append, List.cons_prefix_cons] at hprefix
    exact hdot hprefix.2.1.symm

theorem free_flatMap {α : Type} {l : List α} {g : α → PlainCode} (h : ∀ a ∈ l, Free f (g a)) :
    Free f (l.flatMap g) := by
  induction l with
  | nil => exact free_nil
  | cons a l ih =>
    rw [List.flatMap_cons]
    exact (h a List.mem_cons_self).append (ih fun a ha => h a (List.mem_cons_of_mem _ ha))

/-- Code that is free behind a word, such as a name of whatever kind. -/
def FreeBehind (f : String) (code : PlainCode) : Prop :=
  ∀ word, word ≠ "self" ∧ word ≠ "." → Free f (word :: code)

theorem Free.behind (h : Free f code) : FreeBehind f code :=
  fun _ hword => h.cons hword

theorem freeBehind_name (name : String) : FreeBehind f [name] :=
  fun _ hword => free_nil.name hword name

theorem FreeBehind.parens (h : FreeBehind f code) : Free f (parens code) :=
  Free.append (h "(" (by decide)) (free_words (by decide))

end Free

end RestClient
