import RestClient.Proofs.Client.FreshNames
import RestClient.Proofs.Client.Planning
import RestClient.Proofs.Interface.Methods
import RestClient.Proofs.Template.Cutting

/-!
# The order of fields

A plan has its fields in the order in which their converters are first used, one for each kind and
type, under names that differ from each other and from those of the other fields of a client. What
is planned first is not changed by what is planned behind it: the letters behind the names are drawn
in the same way whatever follows.

## Main definitions

- `ConverterUse.key` — what tells uses apart
- `ConverterPlan.Holds` — a plan that some uses have gone into
- `ConverterPlan.InOrderOfUse` — the fields for some uses

## Main results

- `ConverterPlan.Holds.add` — what one more use does
- `ConverterPlan.holds_build` — what all uses of methods do
- `fields_in_order_of_use` — the fields for methods, and for more methods behind them
-/

namespace RestClient

/-- The kind of a converter and the words of the type: uses with the same share a field. -/
def ConverterUse.key (u : ConverterUse) : ConverterKind × Code.PlainCode :=
  (u.kind, typeKey u.type)

/-- The kind and the words of the type that a field is for. -/
def ConverterField.key (f : ConverterField) : ConverterKind × Code.PlainCode :=
  f.use.key

theorem ConverterField.serves_iff_key {f : ConverterField} {u : ConverterUse} :
    f.serves u = true ↔ f.key = u.key := by
  rw [serves_iff, key, ConverterUse.key, ConverterUse.key, Prod.mk.injEq]

namespace ConverterPlan

variable {plan plan' : ConverterPlan} {u v : ConverterUse} {uses more : List ConverterUse}

theorem field?_isSome_iff : (plan.field? u).isSome = true ↔ u.key ∈ plan.fields.map (·.key) := by
  simp only [field?, List.find?_isSome, ConverterField.serves_iff_key, List.mem_map]

/-! ### A plan as it grows -/

/-- A plan that has fields for some uses: one for each kind and type in the order of first use. Its
names are in use, beside the names that are reserved. -/
structure Holds (uses : List ConverterUse) (plan : ConverterPlan) : Prop where
  keys : plan.fields.map (·.key) = (uses.map ConverterUse.key).eraseDups
  taken : plan.supply.taken = reservedFields ++ plan.fields.map (·.name)
  distinct : plan.supply.taken.Nodup

theorem holds_empty (letters : Letters) : Holds [] (empty letters) where
  keys := rfl
  taken := rfl
  distinct := by
    show reservedFields.Nodup
    decide

theorem eraseDups_append_of_mem {α : Type} [BEq α] [LawfulBEq α] {l : List α} {a : α}
    (h : a ∈ l) : (l ++ [a]).eraseDups = l.eraseDups := by
  rw [List.eraseDups_append]
  simp [List.removeAll, h]

theorem eraseDups_append_of_notMem {α : Type} [BEq α] [LawfulBEq α] {l : List α} {a : α}
    (h : a ∉ l) : (l ++ [a]).eraseDups = l.eraseDups ++ [a] := by
  rw [List.eraseDups_append]
  simp [List.removeAll, h, List.eraseDups_cons]

/-- One more use leaves a plan that has a field for it, and otherwise gets a field with a name that
is not in use. -/
theorem Holds.add (h : Holds uses plan) (hadd : plan.add u = .ok plan') :
    Holds (uses ++ [u]) plan' := by
  have hkey : u.key ∈ plan.fields.map (·.key) ↔ u.key ∈ uses.map ConverterUse.key := by
    rw [h.keys, List.mem_eraseDups]
  rcases add_eq_ok.mp hadd with ⟨hsome, rfl⟩ | ⟨hfree, _, rfl⟩
  · refine ⟨?_, h.taken, h.distinct⟩
    have hmem := hkey.mp (field?_isSome_iff.mp hsome)
    rw [List.map_append, List.map_singleton, eraseDups_append_of_mem hmem, h.keys]
  · have hnew : u.key ∉ uses.map ConverterUse.key := by
      rw [← hkey, ← field?_isSome_iff, hfree]
      simp
    have htaken : (plan.newName u).2.taken = plan.supply.taken ++ [(plan.newName u).1] := rfl
    refine ⟨?_, ?_, ?_⟩
    · rw [List.map_append, List.map_append, h.keys, List.map_singleton, List.map_singleton,
        eraseDups_append_of_notMem hnew]
      rfl
    · rw [htaken, h.taken, List.map_append, List.append_assoc, List.map_singleton]
    · rw [htaken, ← List.concat_eq_append, List.nodup_concat]
      exact ⟨(NameSupply.allocate_spec _ plan.supply).1, h.distinct⟩

theorem Holds.foldlM_add (h : Holds uses plan)
    (hadd : more.foldlM ConverterPlan.add plan = .ok plan') :
    Holds (uses ++ more) plan' := by
  have hrun := Outcome.foldlM_related
    (R := fun more before after => ∀ uses, Holds uses before → Holds (uses ++ more) after)
    (fun _ uses hbefore => by rwa [List.append_nil])
    (fun u rest before between after hu hrest uses hbefore => by
      rw [← List.singleton_append, ← List.append_assoc]
      exact hrest _ (hbefore.add hu)) hadd
  exact hrun uses h

theorem holds_build {letters : Letters} {methods : List MethodDescriptor}
    (h : build letters methods = .ok plan) : Holds (methods.flatMap needs) plan :=
  (holds_empty letters).foldlM_add h

/-! ### More methods -/

/-- Uses that have fields change nothing. -/
theorem foldlM_add_of_isSome (h : ∀ u ∈ uses, (plan.field? u).isSome = true) :
    uses.foldlM add plan = .ok plan := by
  induction uses with
  | nil => rfl
  | cons u uses ih =>
    obtain ⟨hu, huses⟩ := List.forall_mem_cons.mp h
    rw [Outcome.foldlM_cons_eq_ok]
    exact ⟨plan, add_of_isSome hu, ih huses⟩

/-- The plan for methods is what the plan for the first of them becomes. -/
theorem build_append {letters : Letters} {methods others : List MethodDescriptor} :
    build letters (methods ++ others) =
      build letters methods >>= fun plan => (others.flatMap needs).foldlM add plan := by
  rw [build, List.flatMap_append, List.foldlM_append]
  rfl

/-- The fields of a plan for uses: in the order in which a kind and a type are used first, with
names that differ from each other and from the reserved ones. -/
structure InOrderOfUse (uses : List ConverterUse) (plan : ConverterPlan) : Prop where
  keys : plan.fields.map (·.key) = (uses.map ConverterUse.key).eraseDups
  distinct_keys : (plan.fields.map (·.key)).Nodup
  distinct_names : (plan.fields.map (·.name)).Nodup
  unreserved : ∀ f ∈ plan.fields, f.name ∉ reservedFields

theorem Holds.inOrderOfUse (h : Holds uses plan) : plan.InOrderOfUse uses := by
  have hnames := h.distinct
  rw [h.taken, List.nodup_append'] at hnames
  obtain ⟨_, hnames, hapart⟩ := hnames
  refine ⟨h.keys, ?_, hnames, fun f hf hreserved => ?_⟩
  · rw [h.keys]
    exact Template.nodup_eraseDups _
  · exact hapart hreserved (List.mem_map_of_mem hf)

end ConverterPlan

open ConverterPlan in
/-- The fields for methods stand in the order of first use: the parameters of a method as they are
declared, then its result, one method after the other. The fields for the first methods are the
first fields, and methods that use nothing else change nothing. -/
theorem fields_in_order_of_use {letters : Letters} {methods : List MethodDescriptor}
    {plan : ConverterPlan} (h : ConverterPlan.build letters methods = .ok plan) :
    plan.InOrderOfUse (methods.flatMap fun m =>
        m.parameters.filterMap parameterNeed? ++ (responseNeed? m.returns).toList) ∧
      (∀ first others, methods = first ++ others →
        ∃ before, ConverterPlan.build letters first = .ok before ∧
          before.fields <+: plan.fields) ∧
      ∀ others, (∀ u ∈ others.flatMap needs, ∃ v ∈ methods.flatMap needs, v.key = u.key) →
        ConverterPlan.build letters (methods ++ others) = .ok plan := by
  refine ⟨(holds_build h).inOrderOfUse, ?_, ?_⟩
  · rintro first others rfl
    rw [build_append] at h
    obtain ⟨before, hbefore, hrest⟩ := Outcome.bind_eq_ok.mp h
    obtain ⟨new, hfields, _⟩ := (foldlM_add_extends hrest).fields
    exact ⟨before, hbefore, new, hfields.symm⟩
  · intro others hused
    rw [build_append, Outcome.bind_eq_ok]
    refine ⟨plan, h, foldlM_add_of_isSome fun u hu => ?_⟩
    obtain ⟨v, hv, hkey⟩ := hused u hu
    rw [field?_isSome_iff, ← hkey]
    exact field?_isSome_iff.mp (covers_of_build h hv)

/-! ### Types with the same words in snake case -/

/-- A method that gives a value of a type. -/
def valueMethod (t : Code.TypeExpr) : MethodDescriptor where
  signature :=
    { lead := [], asyncSpan := some .nowhere, name := "value", nameSpan := .nowhere
      generics := [], inputs := [], variadic := [], parentheses := .nowhere, arrow := []
      output := some (appliedType "Result" t)
      whereClause := [] }
  attributes := []
  verb := .get
  url := .template "a" .nowhere
  encoding := .none
  headers := []
  parameters := []
  returns := .value t
  callback := none

/-- Lists of users, and a type of its own that is called nearly the same. -/
def similarMethods : List MethodDescriptor :=
  [valueMethod (appliedType "Vec" (plainType "User")), valueMethod (plainType "VecUser")]

theorem fields_in_order_of_use_similar :
    ∃ plan, ConverterPlan.build .initial similarMethods = .ok plan ∧
      plan.fields.map ConverterField.name =
        ["vec_user_response_body_converter", "vec_user_response_body_converter_pb"] ∧
      plan.InOrderOfUse (similarMethods.flatMap fun m =>
        m.parameters.filterMap parameterNeed? ++ (responseNeed? m.returns).toList) ∧
      ConverterPlan.build .initial (similarMethods ++ similarMethods) = .ok plan := by
  have hnames : (ConverterPlan.build .initial similarMethods).map
      (fun plan => plan.fields.map ConverterField.name) =
        .ok ["vec_user_response_body_converter", "vec_user_response_body_converter_pb"] := by
    decide +kernel
  obtain ⟨plan, hplan, hnames⟩ := Outcome.map_eq_ok.mp hnames
  obtain ⟨horder, _, hmore⟩ := fields_in_order_of_use hplan
  exact ⟨plan, hplan, hnames, horder, hmore similarMethods fun u hu => ⟨u, hu, rfl⟩⟩

end RestClient
