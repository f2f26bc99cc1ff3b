import Mathlib.Data.List.Forall2

/-!
# Results that are taken apart

A computation that ends well has taken every one of its steps, each with a result. These are the
steps behind a bind, a map, and a walk along a list. Computations whose steps go along with each
other end alike. What holds of both ends of a computation, of its errors and of its results, is put
together from what holds of its steps.

## Main definitions

- `Outcome.Ends` — what the errors and what the results of a computation satisfy
-/

namespace RestClient.Outcome

variable {ε α β γ δ : Type}

theorem bind_eq_ok {x : Except ε α} {f : α → Except ε β} {b : β} :
    x >>= f = .ok b ↔ ∃ a, x = .ok a ∧ f a = .ok b := by
  cases x with
  | error e => simp [bind, Except.bind]
  | ok a => simp [bind, Except.bind]

theorem map_eq_ok {x : Except ε α} {f : α → β} {b : β} :
    x.map f = .ok b ↔ ∃ a, x = .ok a ∧ f a = b := by
  cases x with
  | error e => simp [Except.map]
  | ok a => simp [Except.map]

theorem map_eq_error {x : Except ε α} {f : α → β} {e : ε} : x.map f = .error e ↔ x = .error e := by
  cases x with
  | error e => simp [Except.map]
  | ok a => simp [Except.map]

theorem foldlM_cons_eq_ok {f : β → α → Except ε β} {a : α} {l : List α} {b c : β} :
    (a :: l).foldlM f b = .ok c ↔ ∃ d, f b a = .ok d ∧ l.foldlM f d = .ok c := by
  rw [List.foldlM_cons, bind_eq_ok]

/-- What a step in front of a walk does, and no step at all, a whole walk does. -/
theorem foldlM_related {f : β → α → Except ε β} {R : List α → β → β → Prop}
    (hnil : ∀ b, R [] b b)
    (hcons : ∀ a l b c d, f b a = .ok c → R l c d → R (a :: l) b d)
    {l : List α} {b c : β} (h : l.foldlM f b = .ok c) : R l b c := by
  induction l generalizing b with
  | nil =>
    obtain rfl : b = c := by simpa [pure, Except.pure] using h
    exact hnil b
  | cons a l ih =>
    obtain ⟨d, hd, hrest⟩ := foldlM_cons_eq_ok.mp h
    exact hcons a l b d c hd (ih hrest)

theorem mapM_eq_ok {f : α → Except ε β} {l : List α} {r : List β} :
    l.mapM f = .ok r ↔ List.Forall₂ (fun a b => f a = .ok b) l r := by
  induction l generalizing r with
  | nil => simp [pure, Except.pure, eq_comm]
  | cons a l ih =>
    rw [List.mapM_cons, bind_eq_ok, List.forall₂_cons_left_iff]
    constructor
    · rintro ⟨b, hb, h⟩
      obtain ⟨bs, hbs, he⟩ := bind_eq_ok.mp h
      exact ⟨b, bs, hb, ih.mp hbs, by simpa [pure, Except.pure] using he.symm⟩
    · rintro ⟨b, bs, hb, hbs, rfl⟩
      exact ⟨b, hb, bind_eq_ok.mpr ⟨bs, ih.mpr hbs, rfl⟩⟩

theorem mapM_eq_some {f : α → Option β} {l : List α} {r : List β} :
    l.mapM f = some r ↔ List.Forall₂ (fun a b => f a = some b) l r := by
  induction l generalizing r with
  | nil => simp [eq_comm]
  | cons a l ih =>
    rw [List.mapM_cons, Option.bind_eq_bind, Option.bind_eq_some_iff,
      List.forall₂_cons_left_iff]
    constructor
    · rintro ⟨b, hb, h⟩
      obtain ⟨bs, hbs, he⟩ := Option.bind_eq_some_iff.mp h
      exact ⟨b, bs, hb, ih.mp hbs, (Option.some.inj he).symm⟩
    · rintro ⟨b, bs, hb, hbs, rfl⟩
      exact ⟨b, hb, Option.bind_eq_some_iff.mpr ⟨bs, ih.mpr hbs, rfl⟩⟩

/-- A list goes along with some other one where each of its members goes along with something. -/
theorem exists_forall₂_iff {R : α → β → Prop} {l : List α} :
    (∃ r, List.Forall₂ R l r) ↔ ∀ a ∈ l, ∃ b, R a b := by
  induction l with
  | nil => simp
  | cons a l ih => simp [List.forall₂_cons_left_iff, ← ih]

/-- A walk along a list ends well where each of its members has a result. -/
theorem exists_mapM_eq_ok {f : α → Except ε β} {l : List α} :
    (∃ r, l.mapM f = .ok r) ↔ ∀ a ∈ l, ∃ b, f a = .ok b := by
  simp only [mapM_eq_ok, exists_forall₂_iff]

/-- The results of a walk are those of the members, one after the other. -/
theorem eq_flatMap_of_mapM {f : α → Except ε β} {l : List α} {r : List β} (h : l.mapM f = .ok r) :
    r = l.flatMap fun a => (f a).toOption.toList := by
  have hrelated := mapM_eq_ok.mp h
  clear h
  induction hrelated with
  | nil => rfl
  | cons hab _ ih =>
    rw [List.flatMap_cons, ← ih, hab]
    rfl

/-- Whatever comes out of a walk along a list has come from a member of the list. -/
theorem exists_of_forall₂ {R : α → β → Prop} {l : List α} {r : List β} (h : List.Forall₂ R l r)
    {b : β} (hb : b ∈ r) : ∃ a ∈ l, R a b := by
  induction h with
  | nil => cases hb
  | cons hab _ ih =>
    rcases List.mem_cons.mp hb with rfl | hb
    · exact ⟨_, List.mem_cons_self, hab⟩
    · obtain ⟨a, ha, hrest⟩ := ih hb
      exact ⟨a, List.mem_cons_of_mem _ ha, hrest⟩

/-- Two lists that go along with a third one in between. -/
theorem forall₂_comp {R : α → β → Prop} {S : β → γ → Prop} {l : List α} {m : List β} {r : List γ}
    (hl : List.Forall₂ R l m) (hr : List.Forall₂ S m r) :
    List.Forall₂ (fun a c => ∃ b, R a b ∧ S b c) l r := by
  induction hl generalizing r with
  | nil =>
    cases hr
    exact .nil
  | cons hab _ ih =>
    obtain ⟨c, cs, hbc, hrest, rfl⟩ := List.forall₂_cons_left_iff.mp hr
    exact .cons ⟨_, hab, hbc⟩ (ih hrest)

/-- Two lists go along with each other where a third one goes along with both. -/
theorem forall₂_iff_exists_common {R : α → β → Prop} {S : α → γ → Prop} {T : β → γ → Prop}
    {l : List α} {m : List β} (h : ∀ a ∈ l, ∀ b, R a b ↔ ∃ c, S a c ∧ T b c) :
    List.Forall₂ R l m ↔ ∃ r, List.Forall₂ S l r ∧ List.Forall₂ T m r := by
  induction l generalizing m with
  | nil => cases m <;> simp
  | cons a l ih =>
    cases m with
    | nil => simp
    | cons b m =>
      rw [List.forall₂_cons, h a List.mem_cons_self,
        ih fun a' ha' => h a' (List.mem_cons_of_mem a ha')]
      constructor
      · rintro ⟨⟨c, hac, hbc⟩, r, hl, hm⟩
        exact ⟨c :: r, .cons hac hl, .cons hbc hm⟩
      · rintro ⟨r, hl, hm⟩
        obtain ⟨c, rest, hac, hleft, rfl⟩ := List.forall₂_cons_left_iff.mp hl
        obtain ⟨hbc, hright⟩ := List.forall₂_cons.mp hm
        exact ⟨⟨c, hac, hbc⟩, rest, hleft, hright⟩

/-- A walk along lists that are put together walks along each of them. -/
theorem foldlM_flatMap {f : γ → β → Except ε γ} {g : α → List β} (l : List α) (c : γ) :
    (l.flatMap g).foldlM f c = l.foldlM (fun c a => (g a).foldlM f c) c := by
  induction l generalizing c with
  | nil => rfl
  | cons a l ih =>
    rw [List.flatMap_cons, List.foldlM_append, List.foldlM_cons]
    exact congrArg _ (funext fun c => ih c)

/-! ### Errors that are told otherwise -/

theorem mapError_bind {ε' : Type} (x : Except ε α) (f : α → Except ε β) (g : ε → ε') :
    (x >>= f).mapError g = x.mapError g >>= fun a => (f a).mapError g := by
  cases x <;> rfl

/-- A walk whose steps tell their errors otherwise does so itself. -/
theorem foldlM_mapError {ε' : Type} {f : β → α → Except ε β} {f' : β → α → Except ε' β}
    {g : ε → ε'} {l : List α} (h : ∀ a ∈ l, ∀ b, f' b a = (f b a).mapError g) (b : β) :
    l.foldlM f' b = (l.foldlM f b).mapError g := by
  induction l generalizing b with
  | nil => rfl
  | cons a l ih =>
    rw [List.foldlM_cons, List.foldlM_cons, h a List.mem_cons_self, mapError_bind]
    exact congrArg _ (funext fun c => ih (fun a ha => h a (List.mem_cons_of_mem _ ha)) c)

/-! ### Results that go along with each other -/

/-- Walks along two lists that go along with each other end alike where their steps do. -/
theorem mapM_congr {R : α → β → Prop} {f : α → Option γ} {g : β → Option γ} {l : List α}
    {m : List β} (h : List.Forall₂ R l m) (hfg : ∀ a ∈ l, ∀ b, R a b → f a = g b) :
    l.mapM f = m.mapM g := by
  induction h with
  | nil => rfl
  | cons hab _ ih =>
    rw [List.mapM_cons, List.mapM_cons, hfg _ List.mem_cons_self _ hab,
      ih fun a ha => hfg a (List.mem_cons_of_mem _ ha)]

theorem rel_getElem? {R : α → β → Prop} {l : List α} {m : List β} (h : List.Forall₂ R l m)
    (i : Nat) : Option.Rel R l[i]? m[i]? := by
  induction h generalizing i with
  | nil => exact .none
  | cons hab _ ih =>
    cases i with
    | zero => exact .some hab
    | succ i => exact ih i

theorem rel_map {R : α → β → Prop} {S : γ → δ → Prop} {f : α → γ} {g : β → δ} {x : Option α}
    {y : Option β} (h : Option.Rel R x y) (hfg : ∀ a b, R a b → S (f a) (g b)) :
    Option.Rel S (x.map f) (y.map g) := by
  cases h with
  | some hab => exact .some (hfg _ _ hab)
  | none => exact .none

theorem bind_eq_of_rel {R : α → β → Prop} {f : α → Option γ} {g : β → Option γ} {x : Option α}
    {y : Option β} (h : Option.Rel R x y) (hfg : ∀ a b, R a b → f a = g b) :
    x.bind f = y.bind g := by
  cases h with
  | some hab => exact hfg _ _ hab
  | none => rfl

/-! ### Both ends of a computation -/

/-- A computation fails with an error that satisfies `E` or has a result that satisfies `Q`. -/
def Ends (E : ε → Prop) (Q : α → Prop) : Except ε α → Prop
  | .error e => E e
  | .ok a => Q a

namespace Ends

variable {E E' : ε → Prop} {Q Q' : α → Prop} {R : β → Prop} {x : Except ε α}

theorem mono (h : Ends E Q x) (hE : ∀ e, E e → E' e) (hQ : ∀ a, Q a → Q' a) : Ends E' Q' x := by
  cases x with
  | error e => exact hE e h
  | ok a => exact hQ a h

theorem imp (h : Ends E Q x) (hE : ∀ e, E e → E' e) : Ends E' Q x :=
  h.mono hE fun _ => id

theorem bind {f : α → Except ε β} (h : Ends E Q x) (hf : ∀ a, Q a → Ends E R (f a)) :
    Ends E R (x >>= f) := by
  cases x with
  | error e => exact h
  | ok a => exact hf a h

theorem map {f : α → β} (h : Ends E Q x) (hf : ∀ a, Q a → R (f a)) : Ends E R (x.map f) := by
  cases x with
  | error e => exact h
  | ok a => exact hf a h

theorem foldlM {f : β → α → Except ε β} {l : List α} {b : β} (hb : R b)
    (hf : ∀ a ∈ l, ∀ b, R b → Ends E R (f b a)) : Ends E R (l.foldlM f b) := by
  induction l generalizing b with
  | nil => exact hb
  | cons a l ih =>
    rw [List.foldlM_cons]
    exact (hf a List.mem_cons_self b hb).bind fun c hc =>
      ih hc fun a ha => hf a (List.mem_cons_of_mem _ ha)

end Ends

end RestClient.Outcome
