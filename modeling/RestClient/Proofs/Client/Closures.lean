import RestClient.Client.Execution
import RestClient.Proofs.Client.Contributions
import RestClient.Proofs.Client.Hygiene

/-!
# Closures that run

The closure of a method builds the request that its plan builds. Names are what could come in
between: where no local is the same identifier as a parameter or as another local, every name in the
closure stands for what the plan means by it.

## Main definitions

- `ParameterPlan.Fits` — how a value is converted and how often it contributes go with its role

## Main results

- `ParameterPlan.run_statement` — a statement makes the contributions of its parameter
- `RequestPlan.run_closure` — the closure of a plan builds its request
-/

namespace RestClient

open Code (TypeExpr plainName)
open Http (Contribution Failure RequestBuilder)
open Json (Content)

/-! ### Names -/

namespace LocalScope

variable {scope : LocalScope} {name other : String} {v : LocalValue}

@[simp]
theorem value?_naming_self : (scope.naming name v).value? name = some v := by
  simp [naming, value?]

theorem value?_naming_of_ne (h : plainName name ≠ plainName other) :
    (scope.naming other v).value? name = scope.value? name := by
  rw [value?, naming, List.lookup_cons, beq_false_of_ne h]
  rfl

end LocalScope

/-- Two locals at different places are different identifiers. -/
theorem Locals.Hygienic.ne {l : Locals} {parameters : List String} (h : l.Hygienic parameters)
    (i j : Nat) {x y : String} (hx : l.toList[i]? = some x) (hy : l.toList[j]? = some y)
    (hij : i ≠ j) : plainName x ≠ plainName y := by
  intro he
  refine hij ((List.getElem?_inj ?_ h.distinct).mp ?_)
  · rw [List.length_map]
    exact (List.getElem?_eq_some_iff.mp hx).1
  · rw [List.getElem?_map, List.getElem?_map, hx, hy, Option.map_some, Option.map_some, he]

/-! ### Requests -/

/-- The conversions that give a body and not a text. -/
def Conversion.makesBody : Conversion → Bool
  | octets | plainText | body _ => true
  | text | string _ => false

/-- How a value is converted and how often it contributes go with the role of a parameter. -/
structure ParameterPlan.Fits (p : ParameterPlan) : Prop where
  conversion : p.conversion.makesBody = p.role.kind.takesBody
  map : p.shape = .map ↔ p.role.kind.isMap = true
  url : p.role.kind = .url → p.shape = .single

section Requests

variable {converters : Converters} {baseUrl : String} {arguments : Arguments} {scope : LocalScope}
  {b : RequestBuilder} {l : Locals} {p : ParameterPlan}

theorem Conversion.run_eq_text {conversion : Conversion} (h : conversion.makesBody = false)
    (c : Content) :
    conversion.run converters c = (conversion.toText converters c).map .text := by
  cases conversion <;> first | rfl | cases h

theorem Conversion.run_eq_body {conversion : Conversion} (h : conversion.makesBody = true)
    (c : Content) :
    conversion.run converters c = (conversion.toBody converters c).map .body := by
  cases conversion <;> first | rfl | cases h

/-- A call contributes the value of its operand under the name that it is given. -/
theorem ParameterPlan.run_call {operand : Operand} {name : String} {c : Content}
    (hfits : p.conversion.makesBody = p.role.kind.takesBody)
    (hbuilder : scope.value? l.builder = some .builder)
    (hname : BuilderArgument.run converters scope
      (if p.role.kind.isMap then .key l.key else .literal (p.role.name?.getD "")) =
        .ok (.text name))
    (hoperand : operand.value? scope = some c) :
    (p.call l operand).run converters scope b =
      (p.contribute converters name c >>= b.add).mapError .failed := by
  -- a role takes its value as a text or as a body, and the conversion fits the one it takes
  cases hbody : p.role.kind.takesBody with
  | true =>
    have hvalue : BuilderArgument.run converters scope (.value p.conversion p.valueType operand) =
        ((p.conversion.toBody converters c).map .body).mapError .failed := by
      simp only [BuilderArgument.run, hoperand, Conversion.run_eq_body (hfits.trans hbody)]
    unfold call contribute BuilderCall.run
    cases hk : p.role.kind <;> rw [hk] at hbody hname <;> cases hbody <;>
      cases hcontent : p.conversion.toBody converters c <;> rw [hcontent] at hvalue <;>
      simp only [hbuilder, List.mapM_cons, List.mapM_nil, hname, hvalue] <;>
      rfl
  | false =>
    have hvalue : BuilderArgument.run converters scope (.value p.conversion p.valueType operand) =
        ((p.conversion.toText converters c).map .text).mapError .failed := by
      simp only [BuilderArgument.run, hoperand, Conversion.run_eq_text (hfits.trans hbody)]
    unfold call contribute BuilderCall.run
    cases hk : p.role.kind <;> rw [hk] at hbody hname <;> cases hbody <;>
      cases htext : p.conversion.toText converters c <;> rw [htext] at hvalue <;>
      simp only [hbuilder, List.mapM_cons, List.mapM_nil, hname, hvalue] <;>
      rfl

/-- A name that is written out is the name of the role. -/
theorem ParameterPlan.run_literal (hmap : p.role.kind.isMap = false) :
    BuilderArgument.run converters scope
      (if p.role.kind.isMap then .key l.key else .literal (p.role.name?.getD "")) =
        .ok (.text (p.role.name?.getD "")) := by
  rw [hmap]
  rfl

/-- A statement makes the contributions of its parameter, one after the other. The locals that it
names hide neither each other nor the builder. -/
theorem ParameterPlan.run_statement {parameters : List String} (hfits : p.Fits)
    (hl : l.Hygienic parameters) (hbuilder : scope.value? l.builder = some .builder)
    (hparameter : scope.value? p.parameter = some (.argument (arguments p.parameter)))
    (hshape : (arguments p.parameter).shape = p.shape) :
    (p.statement l).run converters scope b =
      ((p.contributions converters (arguments p.parameter)).foldlM
        (fun b contribution => contribution >>= b.add) b).mapError .failed := by
  have hvalue : plainName l.builder ≠ plainName l.value := hl.ne 0 9 rfl rfl (by decide)
  have hkey : plainName l.builder ≠ plainName l.key := hl.ne 0 10 rfl rfl (by decide)
  have hentry : plainName l.key ≠ plainName l.value := hl.ne 10 9 rfl rfl (by decide)
  have hmap := hfits.map
  have hurl := hfits.url
  rw [← hshape] at hmap hurl
  unfold statement contributions
  rw [← hshape]
  -- the value of an element stands under a local, that of a single parameter under its own name
  have hreference (hplain : p.role.kind.isMap = false) (c : Content) (b : RequestBuilder) :
      (p.call l (.reference l.value)).run converters (scope.naming l.value (.item c)) b =
        (p.contribute converters (p.role.name?.getD "") c >>= b.add).mapError .failed := by
    refine run_call hfits.conversion ?_ (run_literal hplain) ?_
    · rw [LocalScope.value?_naming_of_ne hvalue, hbuilder]
    · rw [Operand.value?, LocalScope.value?_naming_self]
  generalize arguments p.parameter = a at hparameter hmap hurl ⊢
  cases a with
  | single c =>
    have hplain : p.role.kind.isMap = false := by simpa [Argument.shape] using hmap
    have hcall : (p.call l (.held p.parameter)).run converters scope b =
        (p.contribute converters (p.role.name?.getD "") c >>= b.add).mapError .failed := by
      refine run_call hfits.conversion hbuilder (run_literal hplain) ?_
      rw [Operand.value?, hparameter]
    simp only [Argument.shape, ite_self, RequestStatement.run, hcall, Argument.values,
      List.map_cons, List.map_nil, Option.getD_none, List.foldlM_cons, List.foldlM_nil, bind_pure]
  | optional v =>
    have hplain : p.role.kind.isMap = false := by simpa [Argument.shape] using hmap
    have hnot : p.role.kind ≠ .url := fun h => by cases hurl h
    simp only [Argument.shape, hnot, if_false, RequestStatement.run, hparameter, Argument.values,
      List.map_map, List.foldlM_map]
    exact Outcome.foldlM_mapError (fun c _ b => hreference hplain c b) b
  | repeated vs =>
    have hplain : p.role.kind.isMap = false := by simpa [Argument.shape] using hmap
    have hnot : p.role.kind ≠ .url := fun h => by cases hurl h
    simp only [Argument.shape, hnot, if_false, RequestStatement.run, hparameter, Argument.values,
      List.map_map, List.foldlM_map]
    exact Outcome.foldlM_mapError (fun c _ b => hreference hplain c b) b
  | map entries =>
    have hmap : p.role.kind.isMap = true := by simpa [Argument.shape] using hmap
    have hnot : p.role.kind ≠ .url := fun h => by cases hurl h
    simp only [Argument.shape, hnot, if_false, RequestStatement.run, hparameter, Argument.values,
      List.map_map, List.foldlM_map]
    refine Outcome.foldlM_mapError (fun entry _ b => ?_) b
    obtain ⟨k, c⟩ := entry
    refine run_call hfits.conversion ?_ ?_ ?_
    · rw [LocalScope.value?_naming_of_ne hvalue, LocalScope.value?_naming_of_ne hkey, hbuilder]
    · rw [hmap, if_pos rfl, BuilderArgument.run, LocalScope.value?_naming_of_ne hentry,
        LocalScope.value?_naming_self]
      rfl
    · rw [Operand.value?, LocalScope.value?_naming_self]

/-- A literal header is written as it is. -/
theorem HeaderLiteral.run_statement (h : HeaderLiteral)
    (hbuilder : scope.value? l.builder = some .builder) :
    (h.statement l).run converters scope b = (b.add (.header h.name h.value)).mapError .failed := by
  simp only [statement, RequestStatement.run, BuilderCall.run, hbuilder]
  rfl

/-- The statements of a plan make its contributions. -/
theorem RequestPlan.foldlM_run_statement {r : RequestPlan} (hfits : ∀ p ∈ r.parameters, p.Fits)
    (hl : l.Hygienic (r.parameters.map ParameterPlan.parameter))
    (hbuilder : scope.value? l.builder = some .builder)
    (hparameters : ∀ p ∈ r.parameters,
      scope.value? p.parameter = some (.argument (arguments p.parameter)))
    (hshapes : ∀ p ∈ r.parameters, (arguments p.parameter).shape = p.shape) :
    (r.closure l).statements.foldlM (RequestStatement.run converters scope) b =
      ((r.contributions converters arguments).foldlM
        (fun b contribution => contribution >>= b.add) b).mapError .failed := by
  unfold closure contributions
  rw [List.foldlM_append, List.foldlM_append, Outcome.mapError_bind]
  simp only [List.foldlM_map, Outcome.foldlM_flatMap]
  rw [Outcome.foldlM_mapError (fun h _ b => HeaderLiteral.run_statement h hbuilder) b]
  exact congrArg _ (funext fun b => Outcome.foldlM_mapError (fun p hp b =>
    ParameterPlan.run_statement (hfits p hp) hl hbuilder (hparameters p hp) (hshapes p hp)) b)

/-- The closure of a plan builds the request of the plan, or fails where the plan fails. -/
theorem RequestPlan.run_closure {r : RequestPlan} (hfits : ∀ p ∈ r.parameters, p.Fits)
    (hl : l.Hygienic (r.parameters.map ParameterPlan.parameter))
    (hparameters : ∀ p ∈ r.parameters,
      scope.value? p.parameter = some (.argument (arguments p.parameter)))
    (hshapes : ∀ p ∈ r.parameters, (arguments p.parameter).shape = p.shape) :
    (r.closure l).run converters baseUrl scope =
      (r.build converters baseUrl arguments).mapError .failed := by
  have hhidden (p) (hp : p ∈ r.parameters) :
      (scope.naming l.builder .builder).value? p.parameter =
        some (.argument (arguments p.parameter)) := by
    rw [LocalScope.value?_naming_of_ne, hparameters p hp]
    exact (hl.apart l.builder List.mem_cons_self _ (List.mem_map_of_mem hp)).symm
  rw [RequestClosure.run, build, Outcome.mapError_bind]
  exact congrArg (· >>= fun b : RequestBuilder => b.build.mapError CodeFault.failed)
    (foldlM_run_statement hfits hl LocalScope.value?_naming_self hhidden hshapes)

/-- A parameter that the builder hides leaves the closure without meaning. -/
example (type : TypeExpr) (c : Content) :
    let l : Locals := ⟨"builder", "request", "response", "body", "http_client", "converter",
      "outcome", "info", "error", "value", "key", "stream"⟩
    let r : RequestPlan :=
      ⟨.get, "a", .none, [], [⟨"r#builder", .query "q" false, .single, type, .text⟩]⟩
    (r.closure l).run converters baseUrl [("builder", .argument (.single c))] =
      .error .meaningless := by
  cbv

end Requests

end RestClient
