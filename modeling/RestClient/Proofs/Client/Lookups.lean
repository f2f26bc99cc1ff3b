import RestClient.Client.Expansion
import RestClient.Proofs.Client.FieldOrder
import RestClient.Proofs.Client.Mentions
import RestClient.Proofs.Interface.Traits

/-!
# Converters that methods look up

The plan of an interface is made of what its methods need, and the methods look up what they need
again when they are planned themselves. Both agree: every method finds its converters, and every
field is found by some method.

## Main definitions

- `Lookup` — a converter as a method looks it up
- `MethodPlan.lookups` — what a method looks up
-/

namespace RestClient

open Code (TypeExpr TraitDecl)

/-- A converter as a method looks it up, and the field that it finds. -/
structure Lookup where
  kind : ConverterKind
  key : Code.PlainCode
  field : String

/-- The lookup that finds a field. -/
def ConverterField.lookup (f : ConverterField) : Lookup :=
  ⟨f.use.kind, typeKey f.use.type, f.name⟩

/-- The lookup of a use, with the field that a plan has for it. -/
def ConverterPlan.lookup (plan : ConverterPlan) (u : ConverterUse) : Lookup :=
  ⟨u.kind, typeKey u.type, plan.fieldName u⟩

/-- What is looked up to convert a value of a type. -/
def Conversion.lookup? (type : TypeExpr) : Conversion → Option Lookup
  | string field => some ⟨.string, typeKey type, field⟩
  | body field => some ⟨.requestBody, typeKey type, field⟩
  | text | octets | plainText => none

/-- What is looked up to convert a body to a type. -/
def ResponsePlan.lookup? (type : TypeExpr) : ResponsePlan → Option Lookup
  | converted field => some ⟨.responseBody, typeKey type, field⟩
  | unit | text | octets => none

/-- What a parameter looks up. -/
def ParameterPlan.lookup? (q : ParameterPlan) : Option Lookup :=
  q.conversion.lookup? q.valueType

/-- What a method mentions for the conversion of a body, beside the type of the value. -/
def ResponsePlan.mentions : ResponsePlan → List Mention
  | converted field => [.field field]
  | unit | text | octets => []

/-- What a method looks up. -/
def MethodPlan.lookups (m : MethodPlan) : List Lookup :=
  m.request.parameters.filterMap ParameterPlan.lookup? ++
    (m.returns.responseType?.bind fun t => m.response.lookup? t).toList

/-! ### What is needed is looked up -/

/-- A parameter that needs no converter is converted without one, and one that needs a converter is
converted by the field for it. -/
theorem conversionOf_need (plan : ConverterPlan) (p : ParameterDescriptor) :
    (parameterNeed? p = none ∧
      ∃ conversion, conversionOf plan p = .ok conversion ∧ conversion.lookup? p.valueType = none) ∨
    ∃ (kind : ConverterKind) (make : String → Conversion),
      parameterNeed? p = some ⟨kind, p.valueType⟩ ∧
        conversionOf plan p = (plannedField plan ⟨kind, p.valueType⟩).map make ∧
        ∀ field, (make field).lookup? p.valueType = some ⟨kind, typeKey p.valueType, field⟩ := by
  -- what is needed and how it is converted are decided by the same tests, role by role
  unfold parameterNeed? parameterConverter? conversionOf
  cases hk : p.role.kind with
  | url => exact .inl ⟨rfl, .text, rfl, rfl⟩
  | body | part | partMap =>
    cases hform : bodyForm p.valueType with
    | octets => exact .inl ⟨rfl, .octets, rfl, rfl⟩
    | text => exact .inl ⟨rfl, .plainText, rfl, rfl⟩
    | converted => exact .inr ⟨.requestBody, .body, rfl, rfl, fun _ => rfl⟩
  | _ =>
    cases hstr : p.valueType.belongsTo .str with
    | true => exact .inl ⟨rfl, .text, rfl, rfl⟩
    | false => exact .inr ⟨.string, .string, rfl, rfl, fun _ => rfl⟩

theorem ParameterPlan.ofDescriptor_lookup (plan : ConverterPlan) {p : ParameterDescriptor}
    (h : ∀ u, parameterNeed? p = some u → (plan.field? u).isSome = true) :
    ∃ q, ParameterPlan.ofDescriptor plan p = .ok q ∧
      q.lookup? = (parameterNeed? p).map plan.lookup := by
  rcases conversionOf_need plan p with ⟨hnone, conversion, hok, hl⟩ | ⟨kind, make, hsome, hok, hl⟩
  · refine ⟨⟨p.name, p.role, p.shape, p.valueType, conversion⟩, ?_, ?_⟩
    · rw [ofDescriptor, hok]
      rfl
    · rw [hnone]
      exact hl
  · have hfield := plannedField_of_isSome (h _ hsome)
    refine ⟨⟨p.name, p.role, p.shape, p.valueType, make (plan.fieldName ⟨kind, p.valueType⟩)⟩,
      ?_, ?_⟩
    · rw [ofDescriptor, hok, hfield]
      rfl
    · rw [hsome]
      exact hl _

theorem RequestPlan.ofMethod_lookups (plan : ConverterPlan) {m : MethodDescriptor}
    (h : ∀ u ∈ m.parameters.filterMap parameterNeed?, (plan.field? u).isSome = true) :
    ∃ r, RequestPlan.ofMethod plan m = .ok r ∧
      r.parameters.filterMap ParameterPlan.lookup? =
        (m.parameters.filterMap parameterNeed?).map plan.lookup := by
  have hqs : ∃ qs, m.parameters.mapM (ParameterPlan.ofDescriptor plan) = .ok qs ∧
      qs.filterMap ParameterPlan.lookup? =
        (m.parameters.filterMap parameterNeed?).map plan.lookup := by
    generalize m.parameters = ps at h
    induction ps with
    | nil => exact ⟨[], rfl, rfl⟩
    | cons p ps ih =>
      obtain ⟨qs, hqs, hl⟩ := ih fun u hu => h u (by
        rw [List.mem_filterMap] at hu ⊢
        obtain ⟨p', hp', hu⟩ := hu
        exact ⟨p', List.mem_cons_of_mem _ hp', hu⟩)
      obtain ⟨q, hq, hlq⟩ := ParameterPlan.ofDescriptor_lookup plan (p := p)
        fun u hu => h u (List.mem_filterMap.mpr ⟨p, List.mem_cons_self, hu⟩)
      refine ⟨q :: qs, ?_, ?_⟩
      · rw [List.mapM_cons, hq, hqs]
        rfl
      · rw [List.filterMap_cons, List.filterMap_cons, hlq, hl]
        cases parameterNeed? p with
        | none => rfl
        | some u => rfl
  obtain ⟨qs, hqs, hl⟩ := hqs
  exact ⟨_, Outcome.map_eq_ok.mpr ⟨qs, hqs, rfl⟩, hl⟩

/-- A result that needs no converter is converted without one, and one that needs a converter is
converted by the field for it. -/
theorem ResponsePlan.ofType_lookup (plan : ConverterPlan) {returns : ReturnShape} {t : TypeExpr}
    (ht : returns.responseType? = some t)
    (h : ∀ u, responseNeed? returns = some u → (plan.field? u).isSome = true) :
    ∃ r, ResponsePlan.ofType plan t = .ok r ∧
      r.lookup? t = (responseNeed? returns).map plan.lookup := by
  unfold ResponsePlan.ofType
  cases hform : responseForm t with
  | converted =>
    have hneed : responseNeed? returns = some ⟨.responseBody, t⟩ := by
      simp [responseNeed?, ht, hform]
    have hfield := plannedField_of_isSome (h _ hneed)
    refine ⟨.converted (plan.fieldName ⟨.responseBody, t⟩), ?_, ?_⟩
    · dsimp only
      rw [hfield]
      rfl
    · rw [hneed]
      rfl
  | unit =>
    have hneed : responseNeed? returns = none := by simp [responseNeed?, ht, hform]
    exact ⟨.unit, rfl, by rw [hneed]; rfl⟩
  | text =>
    have hneed : responseNeed? returns = none := by simp [responseNeed?, ht, hform]
    exact ⟨.text, rfl, by rw [hneed]; rfl⟩
  | octets =>
    have hneed : responseNeed? returns = none := by simp [responseNeed?, ht, hform]
    exact ⟨.octets, rfl, by rw [hneed]; rfl⟩

/-- A method that delivers to a callback has one. -/
def MethodDescriptor.HasCallback (m : MethodDescriptor) : Prop :=
  ∀ item, m.returns = .callback item → ∃ name, m.callback = some ⟨name, item⟩

theorem MethodPlan.ofMethod_eq_ok {plan : ConverterPlan} {m : MethodDescriptor}
    {request : RequestPlan} {response : ResponsePlan}
    (hrequest : RequestPlan.ofMethod plan m = .ok request) (hcallback : m.HasCallback)
    (hnone : m.returns.responseType? = none → response = .unit)
    (hsome : ∀ t, m.returns.responseType? = some t → ResponsePlan.ofType plan t = .ok response)
    (traitName : String) (locals : Locals) :
    MethodPlan.ofMethod plan traitName locals m =
      .ok ⟨m.signature, traitName ++ "." ++ m.name, request, m.returns, response,
        (m.callback.map CallbackDescriptor.name).getD "", locals⟩ := by
  unfold MethodPlan.ofMethod
  refine Outcome.bind_eq_ok.mpr ⟨request, hrequest, ?_⟩
  cases hr : m.returns with
  | void =>
    rw [hr] at hnone
    rw [hnone rfl]
    rfl
  | callback item =>
    obtain ⟨name, hc⟩ := hcallback item hr
    have hresponse := hsome item (by rw [hr]; rfl)
    rw [hc]
    exact Outcome.bind_eq_ok.mpr ⟨_, rfl, Outcome.bind_eq_ok.mpr ⟨response, hresponse, rfl⟩⟩
  | value t | info t | reactive t _ _ =>
    have hresponse := hsome t (by rw [hr]; rfl)
    exact Outcome.bind_eq_ok.mpr ⟨_, rfl, Outcome.bind_eq_ok.mpr ⟨response, hresponse, rfl⟩⟩

theorem MethodPlan.ofMethod_lookups (plan : ConverterPlan) {m : MethodDescriptor}
    (hplan : ∀ u ∈ needs m, (plan.field? u).isSome = true) (hcallback : m.HasCallback)
    (traitName : String) (locals : Locals) :
    ∃ mp, MethodPlan.ofMethod plan traitName locals m = .ok mp ∧
      mp.lookups = (needs m).map plan.lookup := by
  obtain ⟨request, hrequest, hl⟩ := RequestPlan.ofMethod_lookups plan (m := m)
    fun u hu => hplan u (List.mem_append_left _ hu)
  obtain ⟨response, hnone, hsome, hlr⟩ : ∃ response : ResponsePlan,
      (m.returns.responseType? = none → response = .unit) ∧
        (∀ t, m.returns.responseType? = some t → ResponsePlan.ofType plan t = .ok response) ∧
          (m.returns.responseType?.bind fun t => response.lookup? t) =
            (responseNeed? m.returns).map plan.lookup := by
    cases ht : m.returns.responseType? with
    | none =>
      have hneed : responseNeed? m.returns = none := by simp [responseNeed?, ht]
      exact ⟨.unit, fun _ => rfl, by simp, by rw [hneed]; rfl⟩
    | some t =>
      obtain ⟨response, hok, hlr⟩ := ResponsePlan.ofType_lookup plan ht
        fun u hu => hplan u (List.mem_append_right _ (Option.mem_toList.mpr hu))
      refine ⟨response, by simp, ?_, hlr⟩
      intro t' he
      obtain rfl : t = t' := Option.some.inj he
      exact hok
  refine ⟨_, ofMethod_eq_ok hrequest hcallback hnone hsome traitName locals, ?_⟩
  rw [lookups, needs, List.map_append, hl, hlr]
  cases responseNeed? m.returns with
  | none => rfl
  | some u => rfl

theorem ClientPlan.planMethods_lookups (plan : ConverterPlan) (traitName : String)
    {methods : List MethodDescriptor}
    (hplan : ∀ u ∈ methods.flatMap needs, (plan.field? u).isSome = true)
    (hcallback : ∀ m ∈ methods, m.HasCallback) (letters : Letters) :
    ∃ mps, planMethods plan traitName letters methods = .ok mps ∧
      mps.flatMap MethodPlan.lookups = (methods.flatMap needs).map plan.lookup := by
  induction methods generalizing letters with
  | nil => exact ⟨[], rfl, rfl⟩
  | cons m rest ih =>
    rw [planMethods]
    -- which locals a method gets has no part in what it looks up
    rcases Locals.allocate letters m.parameterNames with ⟨locals, next⟩
    obtain ⟨mp, hmp, hl⟩ := MethodPlan.ofMethod_lookups plan (m := m)
      (fun u hu => hplan u (List.mem_append_left _ hu)) (hcallback m List.mem_cons_self) traitName
      locals
    obtain ⟨mps, hmps, hls⟩ := ih (fun u hu => hplan u (List.mem_append_right _ hu))
      (fun m hm => hcallback m (List.mem_cons_of_mem _ hm)) next
    refine ⟨mp :: mps, ?_, ?_⟩
    · exact Outcome.bind_eq_ok.mpr ⟨mp, hmp, Outcome.bind_eq_ok.mpr ⟨mps, hmps, rfl⟩⟩
    · rw [List.flatMap_cons, List.flatMap_cons, List.map_append, hl, hls]

/-! ### Lookups in code -/

section Code

open Code (codeOf)

theorem Conversion.mem_mentions {conversion : Conversion} {type : TypeExpr} {x : Mention} :
    x ∈ conversion.mentions type ↔
      ∃ l, conversion.lookup? type = some l ∧ (x = .type type ∨ x = .field l.field) := by
  cases conversion <;> simp [mentions, lookup?]

theorem ResponsePlan.mem_mentions {r : ResponsePlan} {t : TypeExpr} {x : Mention} :
    x ∈ r.mentions ↔ ∃ l, r.lookup? t = some l ∧ x = .field l.field := by
  cases r <;> simp [mentions, lookup?]

/-- A statement mentions a method of the builder, and what the conversion of its value mentions. -/
theorem ParameterPlan.mentions_statement (q : ParameterPlan) (l : Locals) :
    ∃ method ∈ writtenWords, (q.statement l).made.mentions =
      .member l.builder method :: q.conversion.mentions q.valueType := by
  have hcall (operand : Operand) : ∃ method ∈ writtenWords, (q.call l operand).mentions =
      .member l.builder method :: q.conversion.mentions q.valueType := by
    refine ⟨(q.call l operand).method, ?_, ?_⟩
    · unfold call
      cases q.role.kind <;> simp [writtenWords]
    · unfold call
      cases q.role.kind <;> simp [BuilderCall.mentions, BuilderArgument.mentions, RoleKind.isMap]
  unfold statement
  split
  · exact hcall _
  · cases q.shape <;> exact hcall _

/-- The types that the body of a method is written with. -/
def MethodPlan.types (m : MethodPlan) : List TypeExpr :=
  m.request.parameters.map ParameterPlan.valueType ++ m.returns.responseType?.toList

/-- What the statements of a request mention: the base address, methods of the builder, and what its
parameters look up, with their types. -/
theorem RequestPlan.mem_mentions_closure {r : RequestPlan} {l : Locals} {x : Mention} :
    x ∈ (r.closure l).mentions → x = .field "base_url" ∨
      (∃ method ∈ writtenWords, x = .member l.builder method) ∨
        ∃ q ∈ r.parameters, x ∈ q.conversion.mentions q.valueType := by
  intro hx
  rcases List.mem_cons.mp hx with rfl | hx
  · exact .inl rfl
  · obtain ⟨s, hs, hx⟩ := List.mem_flatMap.mp hx
    rcases List.mem_append.mp hs with hs | hs
    · obtain ⟨h, _, rfl⟩ := List.mem_map.mp hs
      obtain rfl := List.mem_singleton.mp hx
      exact .inr (.inl ⟨"header", by decide, rfl⟩)
    · obtain ⟨q, hq, rfl⟩ := List.mem_map.mp hs
      obtain ⟨method, hmethod, he⟩ := q.mentions_statement l
      rw [he] at hx
      rcases List.mem_cons.mp hx with rfl | hx
      · exact .inr (.inl ⟨method, hmethod, rfl⟩)
      · exact .inr (.inr ⟨q, hq, hx⟩)

theorem RequestPlan.mem_mentions_of_parameter {r : RequestPlan} {q : ParameterPlan} {x : Mention}
    (hq : q ∈ r.parameters) (hx : x ∈ q.conversion.mentions q.valueType) (l : Locals) :
    x ∈ (r.closure l).mentions := by
  refine List.mem_cons_of_mem _ (List.mem_flatMap.mpr ⟨q.statement l, ?_, ?_⟩)
  · exact List.mem_append_right _ (List.mem_map_of_mem hq)
  · obtain ⟨method, _, he⟩ := q.mentions_statement l
    rw [he]
    exact List.mem_cons_of_mem _ hx

namespace MethodPlan

variable {m : MethodPlan}

theorem mentions_waiting : m.waiting.flatMap MethodStatement.mentions =
    (m.request.closure m.locals).mentions ++ [.field "http_client"] := by
  simp [waiting, exchange, MethodStatement.mentions, Shared.mentions]

theorem mentions_background : m.background.flatMap MethodStatement.mentions = [] := by
  simp [background, exchange, MethodStatement.mentions, Shared.mentions]

theorem mentions_detached : m.detached.flatMap MethodStatement.mentions =
    (m.request.closure m.locals).mentions ++ .field "http_client" :: m.response.mentions := by
  unfold detached
  cases m.response <;> simp [MethodStatement.mentions, ResponsePlan.mentions]

/-- An expression that makes a value mentions its type, and the field of the converter unless a
clone stands for it. -/
theorem mem_mentions_bodyExpr {inBackground : Bool} {type : TypeExpr} {x : Mention}
    (hx : x ∈ (m.bodyExpr inBackground type).mentions) :
    x = .type type ∨ x ∈ m.response.mentions := by
  unfold bodyExpr at hx
  cases hr : m.response <;> rw [hr] at hx <;> cases inBackground <;>
    simp_all [BodyExpr.mentions, Shared.mentions, ResponsePlan.mentions]

theorem mentions_subset_bodyExpr (type : TypeExpr) :
    m.response.mentions ⊆ (m.bodyExpr false type).mentions := by
  unfold bodyExpr
  cases m.response <;> simp [BodyExpr.mentions, Shared.mentions, ResponsePlan.mentions]

/-- A method mentions its request, the transport, and for its result the type and what is looked up
for it. -/
theorem mentions_body (m : MethodPlan) :
    ∃ result, m.body.mentions =
        (m.request.closure m.locals).mentions ++ .field "http_client" :: result ∧
      (∀ x ∈ result, ∃ t, m.returns.responseType? = some t ∧
        (x = .type t ∨ x ∈ m.response.mentions)) ∧
      ∀ t, m.returns.responseType? = some t → m.response.mentions ⊆ result := by
  unfold body
  cases m.returns with
  | void =>
    refine ⟨[], ?_, nofun, nofun⟩
    simp [MethodBody.mentions, MethodBlock.mentions, mentions_waiting, MethodStatement.mentions,
      BlockEnd.mentions]
  | value t =>
    refine ⟨(m.bodyExpr false t).mentions, ?_, ?_, fun _ _ => mentions_subset_bodyExpr t⟩
    · simp [MethodBody.mentions, MethodBlock.mentions, mentions_waiting, BlockEnd.mentions,
        successExpr]
    · exact fun x hx => ⟨t, rfl, mem_mentions_bodyExpr hx⟩
  | info t =>
    refine ⟨.type t :: (m.bodyExpr false t).mentions, ?_, ?_,
      fun _ _ => List.subset_cons_of_subset _ (mentions_subset_bodyExpr t)⟩
    · simp [MethodBody.mentions, MethodBlock.mentions, mentions_waiting, MethodStatement.mentions,
        BlockEnd.mentions, InfoExpr.mentions, infoExpr]
    · intro x hx
      rcases List.mem_cons.mp hx with rfl | hx
      · exact ⟨t, rfl, .inl rfl⟩
      · exact ⟨t, rfl, mem_mentions_bodyExpr hx⟩
  | callback t =>
    refine ⟨m.response.mentions ++ .type t :: .type t :: (m.bodyExpr true t).mentions, ?_, ?_,
      fun _ _ => List.subset_append_left _ _⟩
    · simp [MethodBody.mentions, MethodBlock.mentions, mentions_detached, mentions_background,
        BlockEnd.mentions, InfoExpr.mentions, infoExpr]
    · intro x hx
      simp only [List.mem_append, List.mem_cons] at hx
      rcases hx with hx | rfl | rfl | hx
      · exact ⟨t, rfl, .inr hx⟩
      · exact ⟨t, rfl, .inl rfl⟩
      · exact ⟨t, rfl, .inl rfl⟩
      · exact ⟨t, rfl, mem_mentions_bodyExpr hx⟩
  | reactive t withInfo boxed =>
    refine ⟨m.response.mentions ++ .type t :: (m.bodyExpr true t).mentions, ?_, ?_,
      fun _ _ => List.subset_append_left _ _⟩
    · cases withInfo <;>
        simp [MethodBody.mentions, MethodBlock.mentions, mentions_detached, mentions_background,
          BlockEnd.mentions, InfoExpr.mentions, infoExpr, successExpr]
    · intro x hx
      simp only [List.mem_append, List.mem_cons] at hx
      rcases hx with hx | rfl | hx
      · exact ⟨t, rfl, .inr hx⟩
      · exact ⟨t, rfl, .inl rfl⟩
      · exact ⟨t, rfl, mem_mentions_bodyExpr hx⟩

/-- Whatever a method looks up is mentioned in its body. -/
theorem mem_mentions_of_lookup {l : Lookup} (h : l ∈ m.lookups) :
    .field l.field ∈ m.body.mentions := by
  obtain ⟨result, he, _, hsubset⟩ := m.mentions_body
  rw [he]
  rcases List.mem_append.mp h with h | h
  · obtain ⟨q, hq, hl⟩ := List.mem_filterMap.mp h
    refine List.mem_append_left _ (RequestPlan.mem_mentions_of_parameter hq ?_ _)
    exact Conversion.mem_mentions.mpr ⟨l, hl, .inr rfl⟩
  · obtain ⟨t, ht, hl⟩ := Option.bind_eq_some_iff.mp (Option.mem_toList.mp h)
    refine List.mem_append_right _ (List.mem_cons_of_mem _ (hsubset t ht ?_))
    exact ResponsePlan.mem_mentions.mpr ⟨l, hl, rfl⟩

/-- A method mentions what it looks up, the types that it is written with, and else no converter. -/
theorem mem_mentions {x : Mention} (hx : x ∈ m.body.mentions) :
    (∃ l ∈ m.lookups, x = .field l.field) ∨ (∃ t ∈ m.types, x = .type t) ∨
      ∃ owner name, name ∈ writtenWords ∧ x = .member owner name := by
  obtain ⟨result, he, hresult, _⟩ := m.mentions_body
  rw [he] at hx
  rcases List.mem_append.mp hx with hx | hx
  · rcases RequestPlan.mem_mentions_closure hx with rfl | ⟨method, hmethod, rfl⟩ | ⟨q, hq, hx⟩
    · exact .inr (.inr ⟨_, _, by decide, rfl⟩)
    · exact .inr (.inr ⟨_, _, hmethod, rfl⟩)
    · obtain ⟨l, hl, rfl | rfl⟩ := Conversion.mem_mentions.mp hx
      · exact .inr (.inl ⟨_, List.mem_append_left _ (List.mem_map_of_mem hq), rfl⟩)
      · exact .inl ⟨l, List.mem_append_left _ (List.mem_filterMap.mpr ⟨q, hq, hl⟩), rfl⟩
  · rcases List.mem_cons.mp hx with rfl | hx
    · exact .inr (.inr ⟨_, _, by decide, rfl⟩)
    · obtain ⟨t, ht, rfl | hx⟩ := hresult x hx
      · exact .inr (.inl ⟨t, List.mem_append_right _ (Option.mem_toList.mpr ht), rfl⟩)
      · obtain ⟨l, hl, rfl⟩ := ResponsePlan.mem_mentions.mp hx
        refine .inl ⟨l, List.mem_append_right _ (Option.mem_toList.mpr ?_), rfl⟩
        rw [ht]
        exact hl

/-- Whatever a method looks up stands in its code. -/
theorem infix_code_of_lookup {l : Lookup} (h : l ∈ m.lookups) : fieldCode l.field <:+: m.code :=
  List.infix_append_of_infix_right
    (infix_braces (MethodBody.infix_code (mem_mentions_of_lookup h)))

/-- A field for a converter that stands in the code of a method is looked up, unless it stands in
the signature or in a type, as they were declared. -/
theorem lookup_of_infix_code {f : String} (hf : IsConverterName f) (h : fieldCode f <:+: m.code) :
    (∃ l ∈ m.lookups, l.field = f) ∨ fieldCode f <:+: m.signature.code ∨
      ∃ t ∈ m.types, fieldCode f <:+: codeOf t.tokens := by
  by_cases hsignature : fieldCode f <:+: m.signature.code
  · exact .inr (.inl hsignature)
  · -- the braces keep the body apart from the signature, so the field stands in the body
    have hbody : fieldCode f <:+: m.body.code := by
      by_contra hsilent
      have hend : ¬ fieldCode f <:+: m.body.code ++ ["\x7d"] :=
        silent_append hsilent ⟨by decide, by decide, hf.ne (by decide)⟩ (clear_nil f).silent
      exact silent_append hsignature ⟨by decide, by decide, hf.ne (by decide)⟩ hend h
    obtain ⟨x, hx, hnamed⟩ := (MethodBody.names_iff hf _).mp hbody
    rcases mem_mentions hx with ⟨l, hl, rfl⟩ | ⟨t, ht, rfl⟩ | ⟨owner, name, hname, rfl⟩
    · exact .inl ⟨l, hl, (infix_member_iff.mp hnamed).2⟩
    · exact .inr (.inr ⟨t, ht, hnamed⟩)
    · exact absurd (infix_member_iff.mp hnamed).2 (hf.ne hname)

end MethodPlan

end Code

/-! ### Fields and lookups -/

namespace ConverterPlan

theorem lookup_eq {plan : ConverterPlan} {u : ConverterUse} {f : ConverterField}
    (h : plan.field? u = some f) : plan.lookup u = f.lookup := by
  have hserves : f.serves u = true := List.find?_some (p := fun f : ConverterField => f.serves u) h
  obtain ⟨hk, ht⟩ := ConverterField.serves_iff.mp hserves
  rw [lookup, fieldName, h, ConverterField.lookup, hk, ht]
  rfl

/-- The fields of a plan are what the uses that it is built for look up. -/
theorem exists_field_iff {letters : Letters} {methods : List MethodDescriptor}
    {plan : ConverterPlan} (h : build letters methods = .ok plan) (l : Lookup) :
    (∃ f ∈ plan.fields, f.lookup = l) ↔ l ∈ (methods.flatMap needs).map plan.lookup := by
  constructor
  · rintro ⟨f, hf, rfl⟩
    have hfound := field?_eq_some (distinct_of_build h) hf f.serves_self
    exact List.mem_map.mpr ⟨f.use, use_mem_of_build h hf, lookup_eq hfound⟩
  · intro hl
    obtain ⟨u, hu, rfl⟩ := List.mem_map.mp hl
    obtain ⟨f, hf⟩ := Option.isSome_iff_exists.mp (covers_of_build h hu)
    exact ⟨f, List.mem_of_find?_eq_some hf, (lookup_eq hf).symm⟩

/-- A field is known by its name. -/
theorem eq_of_name {letters : Letters} {methods : List MethodDescriptor} {plan : ConverterPlan}
    (h : build letters methods = .ok plan) {f g : ConverterField} (hf : f ∈ plan.fields)
    (hg : g ∈ plan.fields) (hname : f.name = g.name) : f = g := by
  have holds := holds_build h
  have hnames := holds.distinct
  rw [holds.taken] at hnames
  exact List.inj_on_of_nodup_map (List.nodup_append'.mp hnames).2.1 hf hg hname

/-- The fields of a plan have the names of fields for converters. -/
theorem isConverterName_of_build {letters : Letters} {methods : List MethodDescriptor}
    {plan : ConverterPlan} (h : build letters methods = .ok plan) :
    ∀ f ∈ plan.fields, IsConverterName f.name := by
  have hrun := Outcome.foldlM_related
    (R := fun _ before after => (∀ f ∈ before.fields, IsConverterName f.name) →
      ∀ f ∈ after.fields, IsConverterName f.name)
    (fun _ hbefore => hbefore)
    (fun u rest before between after hu hrest hbefore => by
      refine hrest ?_
      rcases add_eq_ok.mp hu with ⟨_, rfl⟩ | ⟨_, _, rfl⟩
      · exact hbefore
      · intro f hf
        rcases List.mem_append.mp hf with hf | hf
        · exact hbefore f hf
        · obtain rfl := List.mem_singleton.mp hf
          exact isConverterName_of_comesFrom (NameSupply.allocate_spec _ before.supply).2) h
  exact hrun (by simp [empty])

end ConverterPlan

/-- No client of an interface is refused. Where its converters have fields, its methods are planned,
look up exactly these fields, and name in their code what they look up and, outside of what was
declared, no other field for a converter; where they have none, a field would have a name that is no
identifier. -/
theorem ofInterface_looks_up_fields {config : ClientConfig} {t : TraitDecl}
    {d : InterfaceDescriptor} (hd : InterfaceDescriptor.ofTrait config t = .ok d)
    (hstandalone : d.component = .standalone) :
    (∀ diagnostic, ClientPlan.ofInterface d ≠ .error (.refused diagnostic)) ∧
      match ConverterPlan.build .initial d.methods with
      | .ok plan =>
        ∃ methods, ClientPlan.ofInterface d = .ok ⟨d, plan, methods⟩ ∧
          (∀ l, (∃ f ∈ plan.fields, f.lookup = l) ↔ ∃ m ∈ methods, l ∈ m.lookups) ∧
          (∀ m ∈ methods, ∀ l ∈ m.lookups, fieldCode l.field <:+: m.code) ∧
          ∀ m ∈ methods, ∀ f ∈ plan.fields, fieldCode f.name <:+: m.code →
            f.lookup ∈ m.lookups ∨ fieldCode f.name <:+: m.signature.code ∨
              ∃ t ∈ m.types, fieldCode f.name <:+: Code.codeOf t.tokens
      | .error name =>
        ClientPlan.ofInterface d = .error (.illegalName name) ∧
          ∃ u supply, u ∈ d.methods.flatMap needs ∧
            (NameSupply.allocate (preferredField u) supply).1 = name ∧
            Code.isIdentifier name = false := by
  -- the analysis has found the callback wherever a result is delivered to one
  have hcallback : ∀ m ∈ d.methods, m.HasCallback := by
    intro m hm
    obtain ⟨method, hmethod⟩ := analyzed_of_ofTrait hd hm
    obtain ⟨a⟩ := analyzeMethod_eq_ok.mp hmethod
    intro item hr
    exact (returnShape_callback a.returns item).mp hr
  unfold ClientPlan.ofInterface
  rw [if_neg (by simpa using hstandalone)]
  cases hbuild : ConverterPlan.build .initial d.methods with
  | error name =>
    exact ⟨by simp, rfl, ConverterPlan.build_eq_error hbuild⟩
  | ok plan =>
    obtain ⟨methods, hmethods, hl⟩ := ClientPlan.planMethods_lookups plan d.item.name
      (fun u hu => ConverterPlan.covers_of_build hbuild hu) hcallback plan.supply.letters
    dsimp only
    rw [hmethods]
    have hfields (l : Lookup) :
        (∃ f ∈ plan.fields, f.lookup = l) ↔ ∃ m ∈ methods, l ∈ m.lookups := by
      rw [ConverterPlan.exists_field_iff hbuild, ← hl, List.mem_flatMap]
    refine ⟨by simp, methods, rfl, hfields, fun m _ l hm => MethodPlan.infix_code_of_lookup hm, ?_⟩
    intro m hm f hf hcode
    refine (MethodPlan.lookup_of_infix_code
      (ConverterPlan.isConverterName_of_build hbuild f hf) hcode).imp_left ?_
    rintro ⟨l, hlookup, hname⟩
    obtain ⟨g, hg, rfl⟩ := (hfields l).mpr ⟨m, hm, hlookup⟩
    obtain rfl := ConverterPlan.eq_of_name hbuild hg hf hname
    exact hlookup

/-! ### A client of one method -/

/-- The arguments of an attribute that names a type of converters. -/
def plainConfig : ClientConfig where
  baseUrl := "https://h"
  suffix := "Impl"
  client := plainType "Http"
  converter := plainType "Json"
  component := .standalone
  componentSpan := .nowhere

/-- A trait with the one method. -/
def announcer : TraitDecl where
  attributes := []
  visibility := []
  lead := []
  name := "Announcer"
  nameSpan := .nowhere
  generics := []
  hasWhere := false
  colon := []
  supertraits := []
  whereClause := []
  items := [.method announce]
  braces := .nowhere

/-- The interface of the trait. -/
def announcerInterface : InterfaceDescriptor :=
  ⟨cleanTrait announcer, "AnnouncerImpl", "AnnouncerImplBuilder", "https://h", plainType "Http",
    plainType "Json", .standalone, .nowhere, [announced]⟩

theorem ofInterface_looks_up_fields_announcer :
    InterfaceDescriptor.ofTrait plainConfig announcer = .ok announcerInterface ∧
      announcerInterface.component = .standalone ∧
      (∀ diagnostic, ClientPlan.ofInterface announcerInterface ≠ .error (.refused diagnostic)) ∧
      ∃ plan methods,
        ConverterPlan.build .initial announcerInterface.methods = .ok plan ∧
          plan.fields.map ConverterField.name =
            ["u32_string_converter", "user_response_body_converter"] ∧
          ClientPlan.ofInterface announcerInterface = .ok ⟨announcerInterface, plan, methods⟩ ∧
          ∀ l, (∃ f ∈ plan.fields, f.lookup = l) ↔ ∃ m ∈ methods, l ∈ m.lookups := by
  have hd : InterfaceDescriptor.ofTrait plainConfig announcer = .ok announcerInterface := by rfl
  have hnames : (match ConverterPlan.build .initial announcerInterface.methods with
      | .ok plan => plan.fields.map ConverterField.name
      | .error _ => []) = ["u32_string_converter", "user_response_body_converter"] := by
    decide +kernel
  obtain ⟨hrefused, hplan⟩ := ofInterface_looks_up_fields hd rfl
  refine ⟨hd, rfl, hrefused, ?_⟩
  cases hbuild : ConverterPlan.build .initial announcerInterface.methods with
  | error name =>
    rw [hbuild] at hnames
    cases hnames
  | ok plan =>
    rw [hbuild] at hnames hplan
    obtain ⟨methods, hmethods, hlookups, _⟩ := hplan
    exact ⟨plan, methods, rfl, hnames, hmethods, hlookups⟩

end RestClient
