import RestClient.Interface.InterfaceAnalysis
import RestClient.Proofs.Interface.Methods

/-!
# Analyzed traits

The methods of an interface are those of its trait: every item has been analyzed, and none has been
left out. What is wrong with an item is reported whatever the other items are.

## Main definitions

- `complaint?`, `complaints` — what is wrong with an item, and with several
- `TraitItem.IsSound`, `TraitDecl.IsSound` — items and traits with which nothing is wrong
-/

namespace RestClient

open Code (TraitDecl TraitItem)

theorem analyzeItems_eq_nil {items : List TraitItem} {methods : List MethodDescriptor}
    (h : analyzeItems items = (methods, [])) :
    List.Forall₂ (fun item m => analyzeItem item = .ok m) items methods := by
  induction items generalizing methods with
  | nil =>
    obtain rfl : [] = methods := congrArg Prod.fst h
    exact .nil
  | cons item rest ih =>
    rw [analyzeItems] at h
    cases hi : analyzeItem item with
    | error d =>
      rw [hi] at h
      cases congrArg Prod.snd h
    | ok m =>
      rw [hi] at h
      obtain rfl : m :: (analyzeItems rest).1 = methods := congrArg Prod.fst h
      have hrest : (analyzeItems rest).2 = [] := congrArg Prod.snd h
      exact .cons hi (ih (Prod.ext rfl hrest))

theorem methods_of_ofTrait {config : ClientConfig} {t : TraitDecl} {d : InterfaceDescriptor}
    (h : InterfaceDescriptor.ofTrait config t = .ok d) :
    List.Forall₂ (fun item m => analyzeItem item = .ok m) t.items d.methods := by
  unfold InterfaceDescriptor.ofTrait at h
  dsimp only at h
  split at h
  · cases h
  · split at h
    · next hnone =>
      obtain rfl := Except.ok.inj h
      obtain ⟨_, hitems⟩ := List.append_eq_nil_iff.mp hnone
      exact analyzeItems_eq_nil (Prod.ext rfl hitems)
    · cases h

theorem analyzeItem_eq_ok {item : TraitItem} {m : MethodDescriptor} :
    analyzeItem item = .ok m ↔
      ∃ method, item = .method method ∧ method.body = none ∧ analyzeMethod method = .ok m := by
  cases item with
  | other tokens => simp [analyzeItem, broken]
  | method method =>
    cases hb : method.body with
    | none => simp [analyzeItem, hb]
    | some body => simp [analyzeItem, hb, broken]

/-- Every method of an interface has been analyzed. -/
theorem analyzed_of_ofTrait {config : ClientConfig} {t : TraitDecl} {d : InterfaceDescriptor}
    (h : InterfaceDescriptor.ofTrait config t = .ok d) {m : MethodDescriptor}
    (hm : m ∈ d.methods) : ∃ method, analyzeMethod method = .ok m := by
  obtain ⟨item, _, hi⟩ := Outcome.exists_of_forall₂ (methods_of_ofTrait h) hm
  obtain ⟨method, _, _, hmethod⟩ := analyzeItem_eq_ok.mp hi
  exact ⟨method, hmethod⟩

/-! ### Complaints -/

/-- What is wrong with an item, taken on its own. -/
def complaint? (item : TraitItem) : Option Diagnostic :=
  match analyzeItem item with
  | .ok _ => none
  | .error d => some d

/-- What is wrong with items, in their order. -/
def complaints (items : List TraitItem) : List Diagnostic :=
  items.filterMap complaint?

theorem analyzeItems_snd (items : List TraitItem) : (analyzeItems items).2 = complaints items := by
  induction items with
  | nil => rfl
  | cons item rest ih =>
    rw [analyzeItems, complaints, List.filterMap_cons, complaint?]
    cases analyzeItem item with
    | ok m => exact ih
    | error d => exact congrArg (d :: ·) ih

theorem complaints_append (items others : List TraitItem) :
    complaints (items ++ others) = complaints items ++ complaints others :=
  List.filterMap_append

/-- An item with which nothing is wrong: a method without a body that can be analyzed. -/
def Code.TraitItem.IsSound (item : TraitItem) : Prop :=
  ∃ method m, item = .method method ∧ method.body = none ∧ analyzeMethod method = .ok m

/-- A trait with which nothing is wrong: it has no generics, no conditions and no supertraits, and
nothing is wrong with its items. -/
structure Code.TraitDecl.IsSound (t : TraitDecl) : Prop where
  not_generic : t.isGeneric = false
  no_conditions : t.hasWhere = false
  no_supertraits : t.supertraits = []
  items : ∀ item ∈ t.items, item.IsSound

theorem traitDiagnostics_eq_nil {t : TraitDecl} : traitDiagnostics t = [] ↔
    t.isGeneric = false ∧ t.hasWhere = false ∧ t.supertraits = [] := by
  unfold traitDiagnostics
  cases t.isGeneric <;> cases t.hasWhere <;> cases t.supertraits <;> simp

theorem complaint?_eq_none {item : TraitItem} : complaint? item = none ↔ item.IsSound := by
  rw [complaint?]
  cases h : analyzeItem item with
  | error d =>
    constructor
    · intro hsome
      cases hsome
    · rintro ⟨method, m, hm⟩
      rw [analyzeItem_eq_ok.mpr ⟨method, hm⟩] at h
      cases h
  | ok m =>
    obtain ⟨method, hm⟩ := analyzeItem_eq_ok.mp h
    exact ⟨fun _ => ⟨method, m, hm⟩, fun _ => rfl⟩

theorem complaints_eq_nil {items : List TraitItem} :
    complaints items = [] ↔ ∀ item ∈ items, item.IsSound := by
  rw [complaints, List.filterMap_eq_nil_iff]
  exact ⟨fun h item hitem => complaint?_eq_none.mp (h item hitem),
    fun h item hitem => complaint?_eq_none.mpr (h item hitem)⟩

theorem isSound_iff {t : TraitDecl} :
    t.IsSound ↔ traitDiagnostics t ++ complaints t.items = [] := by
  rw [List.append_eq_nil_iff, traitDiagnostics_eq_nil, complaints_eq_nil]
  constructor
  · rintro ⟨hgeneric, hwhere, hsuper, hitems⟩
    exact ⟨⟨hgeneric, hwhere, hsuper⟩, hitems⟩
  · rintro ⟨⟨hgeneric, hwhere, hsuper⟩, hitems⟩
    exact ⟨hgeneric, hwhere, hsuper, hitems⟩

/-! ### The interface of a trait -/

section

variable {config : ClientConfig} {t : TraitDecl}

theorem ofTrait_of_illegal (h : Code.isIdentifier (implementationName config t) = false) :
    InterfaceDescriptor.ofTrait config t =
      .error (.illegalName (implementationName config t)) := by
  unfold InterfaceDescriptor.ofTrait
  dsimp only
  rw [h]
  rfl

theorem ofTrait_of_isSound (h : Code.isIdentifier (implementationName config t) = true)
    (hsound : t.IsSound) : ∃ d, InterfaceDescriptor.ofTrait config t = .ok d := by
  unfold InterfaceDescriptor.ofTrait
  dsimp only
  rw [h, analyzeItems_snd, isSound_iff.mp hsound]
  exact ⟨_, rfl⟩

theorem ofTrait_of_not_isSound (h : Code.isIdentifier (implementationName config t) = true)
    (hsound : ¬ t.IsSound) : InterfaceDescriptor.ofTrait config t =
      .error (.rejected (traitDiagnostics t ++ complaints t.items)) := by
  unfold InterfaceDescriptor.ofTrait
  dsimp only
  rw [h, analyzeItems_snd]
  split
  · next hnone => cases hnone
  · split
    · next hnone => exact absurd (isSound_iff.mpr hnone) hsound
    · rfl

theorem ofTrait_eq_error {failure : GenerationFailure}
    (h : InterfaceDescriptor.ofTrait config t = .error failure) :
    Code.isIdentifier (implementationName config t) = false ∧
        failure = .illegalName (implementationName config t) ∨
      ¬ t.IsSound ∧ failure = .rejected (traitDiagnostics t ++ complaints t.items) := by
  cases hname : Code.isIdentifier (implementationName config t) with
  | false =>
    rw [ofTrait_of_illegal hname] at h
    exact .inl ⟨rfl, (Except.error.inj h).symm⟩
  | true =>
    by_cases hsound : t.IsSound
    · obtain ⟨d, hd⟩ := ofTrait_of_isSound hname hsound
      rw [hd] at h
      cases h
    · rw [ofTrait_of_not_isSound hname hsound] at h
      exact .inr ⟨hsound, (Except.error.inj h).symm⟩

theorem item_of_ofTrait {d : InterfaceDescriptor}
    (h : InterfaceDescriptor.ofTrait config t = .ok d) : d.item = cleanTrait t := by
  unfold InterfaceDescriptor.ofTrait at h
  dsimp only at h
  split at h
  · cases h
  · split at h
    · obtain rfl := Except.ok.inj h
      rfl
    · cases h

end

end RestClient
