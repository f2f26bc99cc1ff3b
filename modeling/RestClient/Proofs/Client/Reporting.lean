import RestClient.Proofs.Client.Lookups

/-!
# What is generated and what is reported

A trait gives an interface exactly if nothing is wrong with it. Otherwise everything that is wrong
is reported, that of the trait first and then what is wrong with each item, whatever the others are.
A method keeps its signature on the way from the trait to its implementation. In place of code that
cannot be generated stand the reports, and nothing else. A name that is no identifier stops all of
this before anything is reported.

## Main results

- `reports_every_fault` — interfaces, reports and generated code
- `padded_suffix_is_no_name` — a suffix that is accepted and makes no name
-/

namespace RestClient

open Code (Tokens TraitDecl TraitItem codeOf)
open Emission (braces)

/-! ### Signatures -/

theorem MethodPlan.signature_of_ofMethod {plan : ConverterPlan} {traitName : String}
    {locals : Locals} {m : MethodDescriptor} {mp : MethodPlan}
    (h : MethodPlan.ofMethod plan traitName locals m = .ok mp) : mp.signature = m.signature := by
  unfold ofMethod at h
  obtain ⟨request, -, h⟩ := Outcome.bind_eq_ok.mp h
  dsimp only at h
  split at h
  · cases h
  · obtain ⟨callback, -, h⟩ := Outcome.bind_eq_ok.mp h
    split at h
    · obtain rfl := Except.ok.inj h
      rfl
    · obtain ⟨response, -, h⟩ := Outcome.bind_eq_ok.mp h
      obtain rfl := Except.ok.inj h
      rfl

theorem ClientPlan.signatures_of_planMethods {plan : ConverterPlan} {traitName : String}
    {methods : List MethodDescriptor} {letters : Letters} {mps : List MethodPlan}
    (h : planMethods plan traitName letters methods = .ok mps) :
    List.Forall₂ (fun m mp => mp.signature = m.signature) methods mps := by
  induction methods generalizing letters mps with
  | nil =>
    obtain rfl : [] = mps := Except.ok.inj h
    exact .nil
  | cons m rest ih =>
    rw [planMethods] at h
    rcases Locals.allocate letters m.parameterNames with ⟨locals, next⟩
    dsimp only at h
    obtain ⟨mp, hmp, h⟩ := Outcome.bind_eq_ok.mp h
    obtain ⟨others, hothers, h⟩ := Outcome.bind_eq_ok.mp h
    obtain rfl : mp :: others = mps := Except.ok.inj h
    exact .cons (MethodPlan.signature_of_ofMethod hmp) (ih hothers)

theorem ClientPlan.ofInterface_eq_ok {d : InterfaceDescriptor} {p : ClientPlan}
    (h : ClientPlan.ofInterface d = .ok p) : p.interface = d ∧
      ConverterPlan.build .initial d.methods = .ok p.converters ∧
      planMethods p.converters d.item.name p.converters.supply.letters d.methods =
        .ok p.methods := by
  unfold ofInterface at h
  split at h
  · cases h
  · cases hc : ConverterPlan.build .initial d.methods with
    | error name =>
      rw [hc] at h
      cases h
    | ok converters =>
      rw [hc] at h
      dsimp only at h
      split at h
      · cases h
      · next hm =>
        obtain rfl := Except.ok.inj h
        exact ⟨rfl, rfl, hm⟩

theorem signature_of_analyzeMethod {method : Code.Method} {m : MethodDescriptor}
    (h : analyzeMethod method = .ok m) : m.signature = cleanSignature method.signature := by
  obtain ⟨a⟩ := analyzeMethod_eq_ok.mp h
  exact a.signature_eq

/-- The cleaned items of a trait have the signatures of the methods. -/
theorem signatures_of_cleanTrait {config : ClientConfig} {t : TraitDecl} {d : InterfaceDescriptor}
    (h : InterfaceDescriptor.ofTrait config t = .ok d) :
    List.Forall₂ (fun item m => ∃ method, item = .method method ∧ method.signature = m.signature)
      d.item.items d.methods := by
  rw [item_of_ofTrait h]
  refine List.forall₂_map_left_iff.mpr ((methods_of_ofTrait h).imp fun item m hm => ?_)
  obtain ⟨method, rfl, -, hmethod⟩ := analyzeItem_eq_ok.mp hm
  exact ⟨_, rfl, (signature_of_analyzeMethod hmethod).symm⟩

/-- An interface beside its trait: there is one method for each item, in the same order, and the
signatures in the trait that is written out are those that the methods of a client are written
with. -/
structure InterfaceDescriptor.Mirrors (d : InterfaceDescriptor) (t : TraitDecl) : Prop where
  methods : List.Forall₂ (fun item m => ∃ method,
    item = .method method ∧ method.body = none ∧ analyzeMethod method = .ok m) t.items d.methods
  emitted (p) : ClientPlan.ofInterface d = .ok p → p.interface = d ∧
    List.Forall₂ (fun item mp => ∃ method, item = .method method ∧
      mp.signature = method.signature ∧
        mp.code = codeOf method.signature.tokens ++ braces mp.block) d.item.items p.methods

theorem mirrors_of_ofTrait {config : ClientConfig} {t : TraitDecl} {d : InterfaceDescriptor}
    (h : InterfaceDescriptor.ofTrait config t = .ok d) : d.Mirrors t := by
  refine ⟨(methods_of_ofTrait h).imp fun item m => analyzeItem_eq_ok.mp, fun p hp => ?_⟩
  obtain ⟨hinterface, -, hmethods⟩ := ClientPlan.ofInterface_eq_ok hp
  refine ⟨hinterface, ?_⟩
  have between := Outcome.forall₂_comp (signatures_of_cleanTrait h)
    (ClientPlan.signatures_of_planMethods hmethods)
  refine between.imp fun item mp => ?_
  rintro ⟨m, ⟨method, rfl, hmethod⟩, hmp⟩
  have same : mp.signature = method.signature := hmp.trans hmethod.symm
  exact ⟨method, rfl, same, by rw [← same]; rfl⟩

/-! ### Expansion -/

/-- A failure says why there is none: there is a name that is no identifier, or something is
reported. -/
def GenerationFailure.IsFounded : GenerationFailure → Prop
  | illegalName name => Code.isIdentifier name = false
  | rejected diagnostics => diagnostics ≠ []

theorem isFounded_of_ofTrait {config : ClientConfig} {t : TraitDecl} {failure : GenerationFailure}
    (h : InterfaceDescriptor.ofTrait config t = .error failure) : failure.IsFounded := by
  rcases ofTrait_eq_error h with ⟨hname, rfl⟩ | ⟨hsound, rfl⟩
  · exact hname
  · exact fun hnone => hsound (isSound_iff.mpr hnone)

theorem isFounded_of_ofInterface {d : InterfaceDescriptor} {failure : ClientFailure}
    (h : ClientPlan.ofInterface d = .error failure) : failure.toFailure.IsFounded := by
  cases failure with
  | refused diagnostic => exact List.cons_ne_nil _ _
  | illegalName name =>
    unfold ClientPlan.ofInterface at h
    split at h
    · cases h
    · split at h
      · next hbuild =>
        obtain ⟨u, supply, -, -, hname⟩ := ConverterPlan.build_eq_error hbuild
        cases h
        exact hname
      · split at h <;> cases h

theorem isFounded_of_expand {args item : Tokens} {failure : GenerationFailure}
    (h : expand args item = .error failure) : failure.IsFounded := by
  unfold expand at h
  split at h
  · cases h
    exact List.cons_ne_nil _ _
  · split at h
    · cases h
      exact List.cons_ne_nil _ _
    · split at h
      · next hinterface =>
        cases h
        exact isFounded_of_ofTrait hinterface
      · split at h
        · next hclient =>
          cases h
          exact isFounded_of_ofInterface hclient
        · cases h

theorem expandInto_none (args item : Tokens) : expandInto none args item = expand args item := by
  unfold expandInto
  cases expand args item <;> rfl

/-- With a directory there is a plan exactly if there is one without it and its file is written. -/
theorem expandInto_some_eq_ok {directory : Directory} {args item : Tokens} {plan : ClientPlan} :
    expandInto (some directory) args item = .ok plan ↔
      expand args item = .ok plan ∧ ∃ file, directory.write plan = .ok file := by
  unfold expandInto
  cases expand args item with
  | error failure => simp
  | ok found =>
    simp only [Except.ok.injEq]
    cases hwrite : directory.write found with
    | error diagnostic =>
      refine iff_of_false nofun ?_
      rintro ⟨rfl, file, hfile⟩
      rw [hwrite] at hfile
      cases hfile
    | ok file =>
      constructor
      · intro h
        obtain rfl := Except.ok.inj h
        exact ⟨rfl, file, hwrite⟩
      · rintro ⟨rfl, -⟩
        rfl

theorem isFounded_of_expandInto {directory : Option Directory} {args item : Tokens}
    {failure : GenerationFailure} (h : expandInto directory args item = .error failure) :
    failure.IsFounded := by
  unfold expandInto at h
  split at h
  · split at h
    · cases h
    · cases h
      exact List.cons_ne_nil _ _
  · exact isFounded_of_expand h

/-- A trait gives an interface exactly if nothing is wrong with it, unless the name of the
implementation is no identifier. Otherwise all that is wrong is reported: with the trait, and then
with its items, of which each is taken on its own. The interface keeps the methods and their
signatures. An expansion gives all items of a client, or a compile error for each report and nothing
else, unless a name is no identifier. Where there is a directory for the generated file, that the
file cannot be written is one more report. -/
theorem reports_every_fault (config : ClientConfig) (t : TraitDecl) :
    (Code.isIdentifier (implementationName config t) = false →
      InterfaceDescriptor.ofTrait config t =
        .error (.illegalName (implementationName config t))) ∧
    (Code.isIdentifier (implementationName config t) = true →
      ((∃ d, InterfaceDescriptor.ofTrait config t = .ok d) ↔ t.IsSound) ∧
      (¬ t.IsSound → InterfaceDescriptor.ofTrait config t =
        .error (.rejected (traitDiagnostics t ++ complaints t.items)))) ∧
    (∀ item, complaints [item] =
      match analyzeItem item with
      | .ok _ => []
      | .error d => [d]) ∧
    (∀ items others, complaints (items ++ others) = complaints items ++ complaints others) ∧
    (∀ d, InterfaceDescriptor.ofTrait config t = .ok d → d.Mirrors t) ∧
    (∀ args item, ClientConfig.parse args = .ok config → readTrait item = .ok t →
      ∀ failure, InterfaceDescriptor.ofTrait config t = .error failure →
        expand args item = .error failure) ∧
    (∀ args item, expandInto none args item = expand args item) ∧
    (∀ directory args item plan, expandInto (some directory) args item = .ok plan ↔
      expand args item = .ok plan ∧ ∃ file, directory.write plan = .ok file) ∧
    ∀ directory args item,
      match expandInto directory args item with
      | .ok plan => expandToCode args item directory = .ok plan.items.flatten
      | .error (.rejected diagnostics) => diagnostics ≠ [] ∧
          expandToCode args item directory = .ok (diagnostics.flatMap fun d => d.report.code)
      | .error (.illegalName name) => Code.isIdentifier name = false ∧
          expandToCode args item directory = .error name := by
  refine ⟨ofTrait_of_illegal, fun hname => ⟨⟨?_, ofTrait_of_isSound hname⟩,
    ofTrait_of_not_isSound hname⟩, fun item => ?_, complaints_append,
    fun d => mirrors_of_ofTrait, ?_, expandInto_none,
    fun directory args item plan => expandInto_some_eq_ok, fun directory args item => ?_⟩
  · rintro ⟨d, hd⟩
    by_contra hsound
    rw [ofTrait_of_not_isSound hname hsound] at hd
    cases hd
  · rw [complaints, List.filterMap_cons, complaint?]
    cases analyzeItem item <;> rfl
  · intro args item hconfig htrait failure hfailure
    rw [expand, hconfig]
    dsimp only
    rw [htrait]
    dsimp only
    rw [hfailure]
  · cases h : expandInto directory args item with
    | ok plan =>
      rw [expandToCode, h]
    | error failure =>
      have founded := isFounded_of_expandInto h
      cases failure with
      | rejected diagnostics =>
        refine ⟨founded, ?_⟩
        rw [expandToCode, h]
        rfl
      | illegalName name =>
        refine ⟨founded, ?_⟩
        rw [expandToCode, h]

/-! ### A suffix that makes no name -/

/-- A trait without items. -/
def emptyTrait : TraitDecl :=
  { announcer with name := "A", items := [] }

/-- A suffix with a blank behind it is accepted, and nothing is wrong with a trait without items;
but the name that the suffix makes is no identifier, and so there is neither an interface nor a
report. -/
theorem padded_suffix_is_no_name :
    (Code.Tokens.read? "converter = J, suffix = \"Impl \"").map
        (fun args => (ClientConfig.parse args).map ClientConfig.suffix) = some (.ok "Impl ") ∧
      emptyTrait.IsSound ∧
      (∀ d, InterfaceDescriptor.ofTrait { plainConfig with suffix := "Impl " } emptyTrait ≠
        .ok d) ∧
      InterfaceDescriptor.ofTrait { plainConfig with suffix := "Impl " } emptyTrait =
        .error (.illegalName "AImpl ") := by
  have hfails : InterfaceDescriptor.ofTrait { plainConfig with suffix := "Impl " } emptyTrait =
      .error (.illegalName "AImpl ") := ofTrait_of_illegal (by decide +kernel)
  refine ⟨by decide +kernel, ⟨rfl, rfl, rfl, ?_⟩, fun d hd => ?_, hfails⟩
  · intro item hitem
    cases hitem
  · rw [hfails] at hd
    cases hd

end RestClient
