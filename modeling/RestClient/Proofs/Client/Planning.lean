import RestClient.Client.RequestPlan
import RestClient.Proofs.Outcome

/-!
# Planned converters

A plan gets a field for every use that it is built for and for nothing else, and no two fields serve
the same use.

## Main definitions

- `ConverterPlan.Distinct` — no two fields serve the same use
- `ConverterPlan.Extends` — a plan with more uses
- `ConverterPlan.newName` — the name of the next field
- `ConverterPlan.fieldName` — the field for a use
-/

namespace RestClient

theorem ConverterField.serves_iff {f : ConverterField} {u : ConverterUse} :
    f.serves u = true ↔ f.use.kind = u.kind ∧ typeKey f.use.type = typeKey u.type := by
  rw [serves, Bool.and_eq_true, beq_iff_eq, beq_iff_eq]

/-- Types that are the same macro are told apart by a gap in its arguments. -/
example : (Code.Tokens.read? "m![a..b]").map (fun tokens => typeKey (.other tokens)) ≠
    (Code.Tokens.read? "m![a. .b]").map fun tokens => typeKey (.other tokens) := by
  decide +kernel

theorem ConverterField.serves_self (f : ConverterField) : f.serves f.use = true :=
  serves_iff.mpr ⟨rfl, rfl⟩

namespace ConverterPlan

/-- No two fields serve the same use. -/
def Distinct (plan : ConverterPlan) : Prop :=
  plan.fields.Pairwise fun f g => f.serves g.use = false

/-- The plan `after` is `before` with fields for some of the uses, and has one for each of them. -/
structure Extends (uses : List ConverterUse) (before after : ConverterPlan) : Prop where
  fields : ∃ new, after.fields = before.fields ++ new ∧ ∀ f ∈ new, f.use ∈ uses
  covers : ∀ u ∈ uses, (after.field? u).isSome = true
  distinct : before.Distinct → after.Distinct

theorem Extends.field?_isSome {uses : List ConverterUse} {before after : ConverterPlan}
    (h : Extends uses before after) {u : ConverterUse} (hu : (before.field? u).isSome = true) :
    (after.field? u).isSome = true := by
  obtain ⟨new, he, _⟩ := h.fields
  rw [field?, List.find?_isSome] at hu ⊢
  obtain ⟨f, hf, hs⟩ := hu
  exact ⟨f, by rw [he]; exact List.mem_append_left _ hf, hs⟩

theorem Extends.nil (plan : ConverterPlan) : Extends [] plan plan where
  fields := ⟨[], by simp, by simp⟩
  covers := by simp
  distinct := id

theorem Extends.trans {us vs : List ConverterUse} {a b c : ConverterPlan} (h : Extends us a b)
    (h' : Extends vs b c) : Extends (us ++ vs) a c where
  fields := by
    obtain ⟨new, he, hnew⟩ := h.fields
    obtain ⟨more, he', hmore⟩ := h'.fields
    refine ⟨new ++ more, by rw [he', he, List.append_assoc], ?_⟩
    intro f hf
    rcases List.mem_append.mp hf with hf | hf
    · exact List.mem_append_left _ (hnew f hf)
    · exact List.mem_append_right _ (hmore f hf)
  covers := by
    intro u hu
    rcases List.mem_append.mp hu with hu | hu
    · exact h'.field?_isSome (h.covers u hu)
    · exact h'.covers u hu
  distinct := h'.distinct ∘ h.distinct

/-- The name of a new field for a use, and the names that are in use then. -/
def newName (plan : ConverterPlan) (u : ConverterUse) : String × NameSupply :=
  plan.supply.allocate (preferredField u)

theorem add_of_isSome {plan : ConverterPlan} {u : ConverterUse}
    (h : (plan.field? u).isSome = true) : plan.add u = .ok plan := by
  rw [add, if_pos h]

theorem add_of_eq_none {plan : ConverterPlan} {u : ConverterUse} (h : plan.field? u = none) :
    plan.add u =
      if Code.isIdentifier (plan.newName u).1 then
        .ok ⟨plan.fields ++ [⟨(plan.newName u).1, u⟩], (plan.newName u).2⟩
      else .error (plan.newName u).1 := by
  rw [add, h]
  rfl

/-- A use that has a field changes nothing; another one gets a field behind the others. -/
theorem add_eq_ok {plan plan' : ConverterPlan} {u : ConverterUse} :
    plan.add u = .ok plan' ↔
      ((plan.field? u).isSome = true ∧ plan = plan') ∨
        (plan.field? u = none ∧ Code.isIdentifier (plan.newName u).1 = true ∧
          ⟨plan.fields ++ [⟨(plan.newName u).1, u⟩], (plan.newName u).2⟩ = plan') := by
  cases hfield : plan.field? u with
  | some f => simp [add_of_isSome (Option.isSome_of_eq_some hfield)]
  | none =>
    rw [add_of_eq_none hfield]
    by_cases hname : Code.isIdentifier (plan.newName u).1 = true <;> simp [hname]

/-- A plan fails on the name of a field that is no identifier. -/
theorem add_eq_error {plan : ConverterPlan} {u : ConverterUse} {name : String} :
    plan.add u = .error name ↔
      plan.field? u = none ∧ (plan.newName u).1 = name ∧ Code.isIdentifier name = false := by
  cases hfield : plan.field? u with
  | some f => simp [add_of_isSome (Option.isSome_of_eq_some hfield)]
  | none =>
    rw [add_of_eq_none hfield]
    by_cases hname : Code.isIdentifier (plan.newName u).1 = true
    · simp only [hname, if_true, reduceCtorEq, true_and, false_iff, not_and]
      rintro rfl
      simp [hname]
    · simp only [hname, if_false, Except.error.injEq, true_and, Bool.false_eq_true, iff_self_and]
      rintro rfl
      simpa using hname

theorem add_extends {plan plan' : ConverterPlan} {u : ConverterUse} (h : plan.add u = .ok plan') :
    Extends [u] plan plan' := by
  rcases add_eq_ok.mp h with ⟨hsome, rfl⟩ | ⟨hfree, _, rfl⟩
  · exact ⟨⟨[], by simp, by simp⟩, by simpa using hsome, id⟩
  · refine ⟨⟨_, rfl, by simp⟩, ?_, ?_⟩
    · intro v hv
      obtain rfl : v = u := by simpa using hv
      rw [field?, List.find?_isSome]
      exact ⟨_, List.mem_append_right _ List.mem_cons_self,
        ConverterField.serves_iff.mpr ⟨rfl, rfl⟩⟩
    · intro hdistinct
      -- the use had no field before, so none of the earlier fields serves it
      refine List.pairwise_append.mpr ⟨hdistinct, List.pairwise_singleton _ _, ?_⟩
      intro f hf g hg
      obtain rfl := List.mem_singleton.mp hg
      simpa using List.find?_eq_none.mp hfree f hf

theorem foldlM_add_extends {uses : List ConverterUse} {plan plan' : ConverterPlan}
    (h : uses.foldlM add plan = .ok plan') : Extends uses plan plan' := by
  refine Outcome.foldlM_related (R := Extends) Extends.nil ?_ h
  intro u rest plan next plan' hu hrest
  exact (add_extends hu).trans hrest

theorem build_extends {letters : Letters} {methods : List MethodDescriptor} {plan : ConverterPlan}
    (h : build letters methods = .ok plan) :
    Extends (methods.flatMap needs) (empty letters) plan :=
  foldlM_add_extends h

theorem distinct_of_build {letters : Letters} {methods : List MethodDescriptor}
    {plan : ConverterPlan} (h : build letters methods = .ok plan) : plan.Distinct :=
  (build_extends h).distinct .nil

theorem covers_of_build {letters : Letters} {methods : List MethodDescriptor}
    {plan : ConverterPlan} (h : build letters methods = .ok plan) {u : ConverterUse}
    (hu : u ∈ methods.flatMap needs) : (plan.field? u).isSome = true :=
  (build_extends h).covers u hu

theorem use_mem_of_build {letters : Letters} {methods : List MethodDescriptor}
    {plan : ConverterPlan} (h : build letters methods = .ok plan) {f : ConverterField}
    (hf : f ∈ plan.fields) : f.use ∈ methods.flatMap needs := by
  obtain ⟨new, he, hnew⟩ := (build_extends h).fields
  rw [he] at hf
  exact hnew f hf

theorem build_eq_error {letters : Letters} {methods : List MethodDescriptor} {name : String}
    (h : build letters methods = .error name) :
    ∃ u supply, u ∈ methods.flatMap needs ∧
      (NameSupply.allocate (preferredField u) supply).1 = name ∧
      Code.isIdentifier name = false := by
  have hends : Outcome.Ends (fun name => ∃ u supply, u ∈ methods.flatMap needs ∧
      (NameSupply.allocate (preferredField u) supply).1 = name ∧ Code.isIdentifier name = false)
      (fun _ => True) (build letters methods) := by
    refine Outcome.Ends.foldlM trivial fun u hu plan _ => ?_
    cases hadd : plan.add u with
    | ok _ => trivial
    | error name =>
      obtain ⟨_, hname, hno⟩ := add_eq_error.mp hadd
      exact ⟨u, plan.supply, hu, hname, hno⟩
  rw [h] at hends
  exact hends

/-- The field that a plan has for a use. -/
def fieldName (plan : ConverterPlan) (u : ConverterUse) : String :=
  ((plan.field? u).map ConverterField.name).getD ""

/-- A field that serves a use is the one that is found for it. -/
theorem field?_eq_some {plan : ConverterPlan} (hplan : plan.Distinct) {f : ConverterField}
    {u : ConverterUse} (hf : f ∈ plan.fields) (hs : f.serves u = true) :
    plan.field? u = some f := by
  obtain ⟨before, after, he⟩ := List.append_of_mem hf
  rw [field?, List.find?_eq_some_iff_append]
  refine ⟨hs, before, after, he, fun g hg => ?_⟩
  rw [Distinct, he, List.pairwise_append] at hplan
  have hother : g.serves f.use = false := hplan.2.2 g hg f List.mem_cons_self
  obtain ⟨hkind, htype⟩ := ConverterField.serves_iff.mp hs
  rw [ConverterField.serves, hkind, htype] at hother
  rw [ConverterField.serves, hother]
  rfl

end ConverterPlan

theorem plannedField_eq_ok {plan : ConverterPlan} {u : ConverterUse} {name : String} :
    plannedField plan u = .ok name ↔ ∃ f, plan.field? u = some f ∧ f.name = name := by
  unfold plannedField
  cases plan.field? u with
  | none => simp
  | some f => simp

theorem plannedField_of_isSome {plan : ConverterPlan} {u : ConverterUse}
    (h : (plan.field? u).isSome = true) : plannedField plan u = .ok (plan.fieldName u) := by
  obtain ⟨f, hf⟩ := Option.isSome_iff_exists.mp h
  rw [plannedField_eq_ok, ConverterPlan.fieldName, hf]
  exact ⟨f, rfl, rfl⟩

theorem fieldName_of_plannedField {plan : ConverterPlan} {u : ConverterUse} {name : String}
    (h : plannedField plan u = .ok name) : plan.fieldName u = name := by
  obtain ⟨f, hf, rfl⟩ := plannedField_eq_ok.mp h
  rw [ConverterPlan.fieldName, hf]
  rfl

end RestClient
