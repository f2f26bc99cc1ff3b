import RestClient.Proofs.Interface.Shapes
import RestClient.Proofs.Outcome

/-!
# Equality of types

Two types are the same when their heads are the same and their parts are the same one by one, with
references and parentheses left aside at every depth. So a type has an outline, the tree of its
heads, and equality of types is equality of outlines. A type that has no outline, as one of its
parts has no head, is not even the same as itself.

The head of a path is its canonical name. A qualified path has none, and this makes one head of all
qualified paths, whatever they are qualified by.

## Main definitions

- `TypeExpr.head?`, `TypeExpr.parts` — a type taken apart once
- `TypeExpr.outline?` — the tree of heads
- `TypeExpr.Comparable` — the types that are the same as themselves
- `TypeExpr.NameOneType` — paths that name one type

## Main results

- `same_iff` — one step of the comparison
- `same_iff_outline` — equality of types as equality of outlines
- `same_partial_equivalence` — equality is symmetric and transitive, and reflexive where it can be
- `same_paths_iff` — which paths are the same, and which of them should not be
-/

namespace RestClient.Code.TypeExpr

/-! ### Heads and parts -/

/-- What equality compares at a type before it goes on to the parts. -/
inductive Head where
  | slice
  | array
  | tuple
  | path (name : Option String)
  deriving DecidableEq, Repr

/-- The head of a slice, an array, a tuple or a path; other types have none. -/
def head? (t : TypeExpr) : Option Head :=
  match t.strip with
  | slice _ _ => some .slice
  | array _ _ => some .array
  | tuple _ _ => some .tuple
  | path _ _ _ _ => some (.path t.canonical?)
  | _ => none

/-- The elements of a slice, an array or a tuple, and the arguments of a path. -/
def parts (t : TypeExpr) : List TypeExpr :=
  match t.strip with
  | slice _ e | array _ e => [e]
  | tuple _ es => es
  | path _ _ _ as => as
  | _ => []

theorem strip_ne_reference (t : TypeExpr) (tokens : Tokens) (inner : TypeExpr) :
    t.strip ≠ reference tokens inner := by
  fun_induction strip t with
  | case1 _ t ih => exact ih
  | case2 _ t ih => exact ih
  | case3 t href _ => exact href tokens inner

theorem strip_ne_paren (t : TypeExpr) (tokens : Tokens) (inner : TypeExpr) :
    t.strip ≠ paren tokens inner := by
  fun_induction strip t with
  | case1 _ t ih => exact ih
  | case2 _ t ih => exact ih
  | case3 t _ hparen => exact hparen tokens inner

theorem sizeOf_strip_le (t : TypeExpr) : sizeOf t.strip ≤ sizeOf t := by
  fun_induction strip t with
  | case1 _ t ih => simp only [reference.sizeOf_spec]; omega
  | case2 _ t ih => simp only [paren.sizeOf_spec]; omega
  | case3 t => exact Nat.le_refl _

theorem sizeOf_lt_of_mem_parts {t p : TypeExpr} (h : p ∈ t.parts) : sizeOf p < sizeOf t := by
  have hstrip := sizeOf_strip_le t
  unfold parts at h
  split at h
  · next e ht =>
    obtain rfl := List.mem_singleton.mp h
    simp only [ht, slice.sizeOf_spec] at hstrip
    omega
  · next e ht =>
    obtain rfl := List.mem_singleton.mp h
    simp only [ht, array.sizeOf_spec] at hstrip
    omega
  · next es ht =>
    have hmem := List.sizeOf_lt_of_mem h
    simp only [ht, tuple.sizeOf_spec] at hstrip
    omega
  · next as ht =>
    have hmem := List.sizeOf_lt_of_mem h
    simp only [ht, path.sizeOf_spec] at hstrip
    omega
  · cases h

/-- What follows for a type from its parts holds of all types. -/
@[elab_as_elim]
theorem partsInduction {P : TypeExpr → Prop} (step : ∀ t : TypeExpr, (∀ p ∈ t.parts, P p) → P t)
    (t : TypeExpr) : P t :=
  step t fun p _ => partsInduction step p
termination_by sizeOf t
decreasing_by exact sizeOf_lt_of_mem_parts ‹_›

/-! ### One step of the comparison -/

theorem same_strip_left (a b : TypeExpr) : same a.strip b = same a b := by
  fun_induction strip a with
  | case1 _ a ih => rw [ih, same]
  | case2 _ a ih => rw [ih, same]
  | case3 => rfl

theorem sameAll_iff {as bs : List TypeExpr} :
    sameAll as bs = true ↔ List.Forall₂ (fun a b => same a b = true) as bs := by
  induction as generalizing bs with
  | nil => cases bs <;> simp [sameAll]
  | cons a as ih => cases bs <;> simp [sameAll, ih]

/-- Two types are the same when their heads are the same and their parts are. -/
theorem same_iff {a b : TypeExpr} :
    same a b = true ↔ ∃ h, a.head? = some h ∧ b.head? = some h ∧
      List.Forall₂ (fun x y => same x y = true) a.parts b.parts := by
  have hname := canonical?_strip a
  have hname' := canonical?_strip b
  rw [← same_strip_left, head?, head?, parts, parts]
  cases ha : a.strip with
  | reference tokens inner => exact absurd ha (strip_ne_reference a tokens inner)
  | paren tokens inner => exact absurd ha (strip_ne_paren a tokens inner)
  | slice _ e => cases hb : b.strip <;> simp [same, hb]
  | array _ e => cases hb : b.strip <;> simp [same, hb]
  | tuple _ es => cases hb : b.strip <;> simp [same, hb, sameAll_iff]
  | path tokens self names as =>
    rw [ha] at hname
    cases hb : b.strip with
    | path tokens' self' names' bs =>
      rw [hb] at hname'
      simp [same, hb, sameAll_iff, hname, hname', eq_comm (a := b.canonical?)]
    | _ => simp [same, hb]
  | implTrait _ _ => simp [same]
  | traitObject _ _ => simp [same]
  | other _ => simp [same]

/-! ### Outlines -/

/-- The heads of a type and of its parts, as a tree. -/
inductive Outline where
  | node (head : Head) (parts : List Outline)

/-- The outline of a type, if all of its parts have heads. -/
def outline? (t : TypeExpr) : Option Outline :=
  t.head?.bind fun h => (t.parts.attach.mapM fun p => outline? p.1).map (.node h)
termination_by sizeOf t
decreasing_by exact sizeOf_lt_of_mem_parts p.2

theorem outline?_eq (t : TypeExpr) :
    t.outline? = t.head?.bind fun h => (t.parts.mapM outline?).map (.node h) := by
  rw [outline?]
  simp [List.mapM_subtype]

theorem outline?_eq_some {t : TypeExpr} {h : Head} {os : List Outline} :
    t.outline? = some (.node h os) ↔
      t.head? = some h ∧ List.Forall₂ (fun p o => p.outline? = some o) t.parts os := by
  rw [outline?_eq, ← Outcome.mapM_eq_some]
  cases t.head? with
  | none => simp
  | some h' => simp [and_comm]

/-- Equality of types is equality of outlines. -/
theorem same_iff_outline {a b : TypeExpr} :
    same a b = true ↔ ∃ o, a.outline? = some o ∧ b.outline? = some o := by
  induction a using partsInduction generalizing b with
  | step a ih =>
    have hparts : List.Forall₂ (fun x y => same x y = true) a.parts b.parts ↔
        ∃ os, List.Forall₂ (fun p o => p.outline? = some o) a.parts os ∧
          List.Forall₂ (fun p o => p.outline? = some o) b.parts os :=
      Outcome.forall₂_iff_exists_common fun p hp q => ih p hp
    rw [same_iff, hparts]
    constructor
    · rintro ⟨h, ha, hb, os, has, hbs⟩
      exact ⟨.node h os, outline?_eq_some.mpr ⟨ha, has⟩, outline?_eq_some.mpr ⟨hb, hbs⟩⟩
    · rintro ⟨⟨h, os⟩, ha, hb⟩
      obtain ⟨ha, has⟩ := outline?_eq_some.mp ha
      obtain ⟨hb, hbs⟩ := outline?_eq_some.mp hb
      exact ⟨h, ha, hb, os, has, hbs⟩

/-! ### A partial equivalence -/

/-- Slices, arrays, tuples and paths, behind references and parentheses, all of whose elements and
arguments are such types again. -/
inductive Comparable : TypeExpr → Prop
  | intro {t : TypeExpr} (head : t.head?.isSome = true) (parts : ∀ p ∈ t.parts, Comparable p) :
    Comparable t

theorem comparable_iff {t : TypeExpr} : t.Comparable ↔ ∃ o, t.outline? = some o := by
  induction t using partsInduction with
  | step t ih =>
    constructor
    · rintro ⟨head, parts⟩
      obtain ⟨h, hh⟩ := Option.isSome_iff_exists.mp head
      obtain ⟨os, hos⟩ := Outcome.exists_forall₂_iff.mpr fun p hp => (ih p hp).mp (parts p hp)
      exact ⟨.node h os, outline?_eq_some.mpr ⟨hh, hos⟩⟩
    · rintro ⟨⟨h, os⟩, ho⟩
      obtain ⟨hh, hos⟩ := outline?_eq_some.mp ho
      exact .intro (Option.isSome_of_eq_some hh) fun p hp =>
        (ih p hp).mpr (Outcome.exists_forall₂_iff.mp ⟨os, hos⟩ p hp)

/-- Equality of types is symmetric and transitive, and reflexive on the comparable types. -/
theorem same_partial_equivalence :
    (∀ a b, same a b = same b a) ∧
      (∀ a b c, same a b = true → same b c = true → same a c = true) ∧
      ∀ t, same t t = true ↔ t.Comparable := by
  refine ⟨fun a b => ?_, fun a b c hab hbc => ?_, fun t => ?_⟩
  · rw [Bool.eq_iff_iff, same_iff_outline, same_iff_outline]
    exact exists_congr fun o => and_comm
  · obtain ⟨o, ha, hb⟩ := same_iff_outline.mp hab
    obtain ⟨o', hb', hc⟩ := same_iff_outline.mp hbc
    obtain rfl : o = o' := Option.some.inj (hb.symm.trans hb')
    exact same_iff_outline.mpr ⟨o, ha, hc⟩
  · rw [same_iff_outline, comparable_iff]
    exact exists_congr fun o => and_self_iff

/-- A vector of strings, a vector in parentheses of borrowed strings, and a borrowed vector, each
under another name. -/
theorem same_partial_equivalence_of_vectors :
    same (named "Vec" [named "String" []])
        (paren [] (path [] none ["vec", "Vec"] [reference [] (named "String" [])])) = true ∧
      same (paren [] (path [] none ["vec", "Vec"] [reference [] (named "String" [])]))
        (reference [] (path [] none ["alloc", "vec", "Vec"] [named "String" []])) = true ∧
      same (named "Vec" [named "String" []])
        (reference [] (path [] none ["alloc", "vec", "Vec"] [named "String" []])) = true := by
  have hleft : same (named "Vec" [named "String" []])
      (paren [] (path [] none ["vec", "Vec"] [reference [] (named "String" [])])) = true := by
    decide +kernel
  have hright : same (paren [] (path [] none ["vec", "Vec"] [reference [] (named "String" [])]))
      (reference [] (path [] none ["alloc", "vec", "Vec"] [named "String" []])) = true := by
    decide +kernel
  exact ⟨hleft, hright, same_partial_equivalence.2.1 _ _ _ hleft hright⟩

/-! ### Paths -/

/-- Two paths that name one type: under one canonical name, or by the same names behind self types
that are alike. -/
def NameOneType (alike : TypeExpr → TypeExpr → Prop) (a b : TypeExpr) : Prop :=
  (∃ name, a.canonical? = some name ∧ b.canonical? = some name) ∨
    ∃ s t q q' names as bs, a.strip = path s (some q) names as ∧
      b.strip = path t (some q') names bs ∧ alike q q'

variable {a b : TypeExpr} {s t : Tokens} {q q' : Option TypeExpr} {names names' : List String}
  {as bs : List TypeExpr}

theorem canonical?_eq_none_iff (h : a.strip = path s q names as) :
    a.canonical? = none ↔ q.isSome = true := by
  rw [canonical?, h]
  cases q <;> simp

theorem head?_of_path (h : a.strip = path s q names as) : a.head? = some (.path a.canonical?) := by
  rw [head?, h]

theorem parts_of_path (h : a.strip = path s q names as) : a.parts = as := by
  rw [parts, h]

/-- Two paths have the same head under one canonical name, or as they are both qualified. -/
theorem head?_eq_iff (ha : a.strip = path s q names as) (hb : b.strip = path t q' names' bs) :
    (∃ h, a.head? = some h ∧ b.head? = some h) ↔
      (∃ name, a.canonical? = some name ∧ b.canonical? = some name) ∨
        q.isSome = true ∧ q'.isSome = true := by
  rw [← canonical?_eq_none_iff ha, ← canonical?_eq_none_iff hb, head?_of_path ha, head?_of_path hb]
  cases a.canonical? <;> cases b.canonical? <;> simp [eq_comm]

theorem nameOneType_iff {alike : TypeExpr → TypeExpr → Prop} (ha : a.strip = path s q names as)
    (hb : b.strip = path t q' names' bs) :
    NameOneType alike a b ↔ (∃ name, a.canonical? = some name ∧ b.canonical? = some name) ∨
      q.isSome = true ∧ q'.isSome = true ∧ names = names' ∧ Option.Rel alike q q' := by
  refine or_congr Iff.rfl ⟨?_, ?_⟩
  · rintro ⟨s', t', r, r', ns, as', bs', ha', hb', halike⟩
    obtain ⟨rfl, rfl, rfl, rfl⟩ := path.inj (ha.symm.trans ha')
    obtain ⟨rfl, rfl, rfl, rfl⟩ := path.inj (hb.symm.trans hb')
    exact ⟨rfl, rfl, rfl, .some halike⟩
  · rintro ⟨_, _, rfl, halike⟩
    cases halike with
    | some halike => exact ⟨s, t, _, _, names, as, bs, ha, hb, halike⟩
    | none => contradiction

/-- Two paths are the same when their arguments are and they have one canonical name or are both
qualified. So those that are the same but do not name one type are qualified by self types that are
not alike, or have other names there, and have the same arguments. -/
theorem same_paths_iff (ha : a.strip = path s q names as) (hb : b.strip = path t q' names' bs) :
    (same a b = true ↔
      ((∃ name, a.canonical? = some name ∧ b.canonical? = some name) ∨
          q.isSome = true ∧ q'.isSome = true) ∧
        List.Forall₂ (fun x y => same x y = true) as bs) ∧
      ∀ alike, same a b = true ∧ ¬ NameOneType alike a b ↔
        q.isSome = true ∧ q'.isSome = true ∧ ¬ (names = names' ∧ Option.Rel alike q q') ∧
          List.Forall₂ (fun x y => same x y = true) as bs := by
  have hsame : same a b = true ↔
      ((∃ name, a.canonical? = some name ∧ b.canonical? = some name) ∨
          q.isSome = true ∧ q'.isSome = true) ∧
        List.Forall₂ (fun x y => same x y = true) as bs := by
    rw [same_iff, ← head?_eq_iff ha hb, parts_of_path ha, parts_of_path hb]
    simp only [← and_assoc, exists_and_right]
  refine ⟨hsame, fun alike => ?_⟩
  rw [hsame, nameOneType_iff ha hb]
  constructor
  · rintro ⟨⟨hhead, hargs⟩, hnot⟩
    obtain ⟨hq, hq'⟩ := hhead.resolve_left fun h => hnot (.inl h)
    exact ⟨hq, hq', fun ⟨hnames, hself⟩ => hnot (.inr ⟨hq, hq', hnames, hself⟩), hargs⟩
  · rintro ⟨hq, hq', hdiffer, hargs⟩
    refine ⟨⟨.inr ⟨hq, hq'⟩, hargs⟩, ?_⟩
    rintro (⟨name, hname, _⟩ | ⟨_, _, halike⟩)
    -- a qualified path has no canonical name
    · rw [(canonical?_eq_none_iff ha).mpr hq] at hname
      cases hname
    · exact hdiffer halike

/-- An item that a trait gives to a type. -/
def associated (self trait item : String) (arguments : List TypeExpr) : TypeExpr :=
  path [] (some (named self [])) [trait, item] arguments

/-- The items of two types are the same when their arguments are. -/
theorem same_paths_iff_associated :
    (associated "A" "X" "Y" [octet]).strip = associated "A" "X" "Y" [octet] ∧
      (reference [] (associated "B" "Z" "W" [reference [] octet])).strip =
        associated "B" "Z" "W" [reference [] octet] ∧
      same (associated "A" "X" "Y" [octet])
        (reference [] (associated "B" "Z" "W" [reference [] octet])) = true := by
  have hargs : List.Forall₂ (fun x y => same x y = true) [octet] [reference [] octet] :=
    .cons (by decide +kernel) .nil
  exact ⟨rfl, rfl, (same_paths_iff rfl rfl).1.mpr ⟨.inr ⟨rfl, rfl⟩, hargs⟩⟩

/-- Items of other types, by other traits and under other names, are the same. -/
theorem qualified_paths_conflated :
    same (associated "A" "X" "Y" []) (associated "B" "Z" "W" []) = true ∧
      ¬ NameOneType (fun _ _ => True) (associated "A" "X" "Y" []) (associated "B" "Z" "W" []) := by
  refine ⟨by decide +kernel, ?_⟩
  rw [nameOneType_iff rfl rfl]
  rintro (⟨name, hname, _⟩ | ⟨_, _, hnames, _⟩)
  · cases hname
  · exact absurd hnames (by decide)

end RestClient.Code.TypeExpr
