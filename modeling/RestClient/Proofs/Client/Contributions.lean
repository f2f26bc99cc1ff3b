import RestClient.Client.Contribution
import RestClient.Proofs.Client.Planning
import RestClient.Proofs.Http.Building
import RestClient.Proofs.Interface.Methods
import RestClient.Proofs.Interface.Shapes

/-!
# From arguments to requests

A method writes its literal headers and then, parameter by parameter, what the role of the parameter
asks for with each value of the argument. The encoding of the body takes everything that is
written, so no argument is lost on the way to the request.

## Main definitions

- `Role.call`, `ParameterDescriptor.calls` — what a role and a parameter write
- `Orderly` — what is written fits the encoding and the template
- `Carries` — a request is made of what is written
-/

namespace RestClient

open Code (TypeExpr Method)
open Http (Channel Contribution Failure Request RequestBody RequestBuilder)
open Json (Content)

/-! ### What roles write -/

/-- The channel that a role writes to. -/
def RoleKind.channel : RoleKind → Channel
  | url => .url
  | path => .path
  | query | queryMap => .query
  | header | headerMap => .header
  | field | fieldMap => .field
  | part | partMap => .part
  | body => .body

/-- What a role writes with a value: a text or a body, under the name of the role, or under the key
of an entry of a map. -/
def Role.call (key : String) (text : Except Failure String) (content : Except Failure RequestBody) :
    Role → Except Failure Contribution
  | url => text.map .url
  | path name encoded => text.map (.path name · encoded)
  | query name encoded => text.map (.query name · encoded)
  | queryMap encoded => text.map (.query key · encoded)
  | header name => text.map (.header name)
  | headerMap => text.map (.header key)
  | field name encoded => text.map (.field name · encoded)
  | fieldMap encoded => text.map (.field key · encoded)
  | part name => content.map (.part name)
  | partMap => content.map (.part key)
  | body => content.map .body

namespace ParameterDescriptor

variable (plan : ConverterPlan) (converters : Converters) (p : ParameterDescriptor)

/-- A value as a text: a string as it is, any other value by its converter. -/
def textOf (c : Content) : Except Failure String :=
  if p.valueType.belongsTo .str then .ok c.asText
  else converters .string (plan.fieldName ⟨.string, p.valueType⟩) c

/-- A value as a body: octets and strings as they are, any other value by its converter. -/
def bodyOf (c : Content) : Except Failure RequestBody :=
  match bodyForm p.valueType with
  | .octets => .ok (.octetStream c.asOctets)
  | .text => .ok (.text c.asText)
  | .converted => converters .requestBody (plan.fieldName ⟨.requestBody, p.valueType⟩) c

/-- What a parameter writes with one value. -/
def call (key : String) (c : Content) : Except Failure Contribution :=
  p.role.call key (p.textOf plan converters c) (p.bodyOf plan converters c)

/-- What a parameter writes: once for a single value, once for a value that is there, once for each
element, or once for each entry. -/
def calls : Argument → List (Except Failure Contribution)
  | .single c => [p.call plan converters "" c]
  | .optional c => c.toList.map (p.call plan converters "")
  | .repeated cs => cs.map (p.call plan converters "")
  | .map entries => entries.map fun (key, c) => p.call plan converters key c

end ParameterDescriptor

theorem Role.channel_of_call {role : Role} {key : String} {text : Except Failure String}
    {content : Except Failure RequestBody} {c : Contribution}
    (h : role.call key text content = .ok c) : c.channel = role.kind.channel := by
  cases role with
  | part | partMap | body =>
    obtain ⟨_, _, rfl⟩ := Outcome.map_eq_ok.mp h
    rfl
  | _ =>
    obtain ⟨_, _, rfl⟩ := Outcome.map_eq_ok.mp h
    rfl

theorem ParameterDescriptor.channel_of_mem_calls {plan : ConverterPlan} {converters : Converters}
    {p : ParameterDescriptor} {a : Argument} {c : Contribution}
    (h : .ok c ∈ p.calls plan converters a) : c.channel = p.role.kind.channel := by
  cases a with
  | single v => exact Role.channel_of_call (List.mem_singleton.mp h).symm
  | optional v =>
    obtain ⟨_, _, hc⟩ := List.mem_map.mp h
    exact Role.channel_of_call hc
  | repeated vs =>
    obtain ⟨_, _, hc⟩ := List.mem_map.mp h
    exact Role.channel_of_call hc
  | map entries =>
    obtain ⟨_, _, hc⟩ := List.mem_map.mp h
    exact Role.channel_of_call hc

/-! ### What a plan writes -/

/-- The roles whose values become bodies. -/
def RoleKind.takesBody : RoleKind → Bool
  | body | part | partMap => true
  | _ => false

theorem toText_of_conversionOf {plan : ConverterPlan} (converters : Converters)
    {p : ParameterDescriptor} {conversion : Conversion}
    (h : conversionOf plan p = .ok conversion) (hbody : p.role.kind.takesBody = false)
    (hurl : p.role.kind = .url → p.valueType.belongsTo .str) (c : Content) :
    conversion.toText converters c = p.textOf plan converters c := by
  unfold conversionOf at h
  unfold ParameterDescriptor.textOf
  by_cases hstr : p.valueType.belongsTo .str = true
  · obtain rfl : Conversion.text = conversion := by
      cases hk : p.role.kind <;> simp [hk, hstr, RoleKind.takesBody] at h hbody <;> exact h
    rw [if_pos hstr]
    rfl
  · have hfield : (plannedField plan ⟨.string, p.valueType⟩).map .string = .ok conversion := by
      cases hk : p.role.kind <;> simp [hk, hstr, RoleKind.takesBody] at h hbody hurl <;> exact h
    obtain ⟨name, hname, rfl⟩ := Outcome.map_eq_ok.mp hfield
    rw [if_neg hstr, fieldName_of_plannedField hname]
    rfl

theorem toBody_of_conversionOf {plan : ConverterPlan} (converters : Converters)
    {p : ParameterDescriptor} {conversion : Conversion}
    (h : conversionOf plan p = .ok conversion) (hbody : p.role.kind.takesBody = true)
    (c : Content) : conversion.toBody converters c = p.bodyOf plan converters c := by
  unfold conversionOf at h
  unfold ParameterDescriptor.bodyOf
  cases hform : bodyForm p.valueType with
  | octets =>
    obtain rfl : Conversion.octets = conversion := by
      cases hk : p.role.kind <;> simp [hk, hform, RoleKind.takesBody] at h hbody <;> exact h
    rfl
  | text =>
    obtain rfl : Conversion.plainText = conversion := by
      cases hk : p.role.kind <;> simp [hk, hform, RoleKind.takesBody] at h hbody <;> exact h
    rfl
  | converted =>
    have hfield : (plannedField plan ⟨.requestBody, p.valueType⟩).map .body = .ok conversion := by
      cases hk : p.role.kind <;> simp [hk, hform, RoleKind.takesBody] at h hbody <;> exact h
    obtain ⟨name, hname, rfl⟩ := Outcome.map_eq_ok.mp hfield
    rw [fieldName_of_plannedField hname]
    rfl

/-- The plan of a parameter contributes with a value what the parameter writes with it. -/
theorem ParameterPlan.contribute_eq {plan : ConverterPlan} (converters : Converters)
    {p : ParameterDescriptor} {q : ParameterPlan} (h : ParameterPlan.ofDescriptor plan p = .ok q)
    (hurl : p.role.kind = .url → p.valueType.belongsTo .str) (key : Option String)
    (hkey : key.isSome = true → p.role.kind.isMap = true) (c : Content) :
    q.contribute converters (key.getD (q.role.name?.getD "")) c =
      p.call plan converters (key.getD "") c := by
  -- a role takes its value as a text or as a body, and the conversion fits the one it takes
  obtain ⟨conversion, hconversion, rfl⟩ := Outcome.map_eq_ok.mp h
  cases hbody : p.role.kind.takesBody with
  | true =>
    have hcontent := toBody_of_conversionOf converters hconversion hbody c
    unfold contribute ParameterDescriptor.call
    dsimp only
    rw [hcontent]
    cases hr : p.role <;> rw [hr] at hbody hkey <;> cases key <;>
      simp_all [Role.call, Role.kind, Role.name?, RoleKind.takesBody, RoleKind.isMap]
  | false =>
    have htext := toText_of_conversionOf converters hconversion hbody hurl c
    unfold contribute ParameterDescriptor.call
    dsimp only
    rw [htext]
    cases hr : p.role <;> rw [hr] at hbody hkey <;> cases key <;>
      simp_all [Role.call, Role.kind, Role.name?, Role.encoded, RoleKind.takesBody, RoleKind.isMap]

theorem ParameterPlan.contributions_eq {plan : ConverterPlan} (converters : Converters)
    {p : ParameterDescriptor} {q : ParameterPlan} (h : ParameterPlan.ofDescriptor plan p = .ok q)
    (hurl : p.role.kind = .url → p.valueType.belongsTo .str) {a : Argument}
    (hmap : a.shape = .map → p.role.kind.isMap = true) :
    q.contributions converters a = p.calls plan converters a := by
  have hone (c : Content) := contribute_eq converters h hurl none (by simp) c
  unfold contributions
  cases a with
  | single c => exact congrArg (fun x => [x]) (hone c)
  | optional c =>
    rw [Argument.values, List.map_map]
    exact List.map_congr_left fun c _ => hone c
  | repeated cs =>
    rw [Argument.values, List.map_map]
    exact List.map_congr_left fun c _ => hone c
  | map entries =>
    rw [Argument.values, List.map_map]
    exact List.map_congr_left fun (key, c) _ =>
      contribute_eq converters h hurl (some key) (fun _ => hmap rfl) c

/-- What a method writes: its literal headers, and then what its parameters write. -/
def MethodDescriptor.calls (plan : ConverterPlan) (converters : Converters) (arguments : Arguments)
    (m : MethodDescriptor) : List (Except Failure Contribution) :=
  m.headers.map (fun h => .ok (.header h.header.name h.header.value)) ++
    m.parameters.flatMap fun p => p.calls plan converters (arguments p.name)

theorem RequestPlan.ofMethod_eq_ok {plan : ConverterPlan} {m : MethodDescriptor}
    {r : RequestPlan} :
    RequestPlan.ofMethod plan m = .ok r ↔
      ∃ qs, List.Forall₂ (fun p q => ParameterPlan.ofDescriptor plan p = .ok q) m.parameters qs ∧
        r = ⟨m.verb, m.template, m.encoding, m.headers.map PlacedHeader.header, qs⟩ := by
  rw [RequestPlan.ofMethod, Outcome.map_eq_ok]
  refine exists_congr fun qs => ?_
  rw [Outcome.mapM_eq_ok]
  exact and_congr_right fun _ => ⟨Eq.symm, Eq.symm⟩

theorem flatMap_contributions_eq {plan : ConverterPlan} (converters : Converters)
    {arguments : Arguments} {ps : List ParameterDescriptor} {qs : List ParameterPlan}
    (h : List.Forall₂ (fun p q => ParameterPlan.ofDescriptor plan p = .ok q) ps qs)
    (hurl : ∀ p ∈ ps, p.role.kind = .url → p.valueType.belongsTo .str)
    (hmap : ∀ p ∈ ps, (arguments p.name).shape = .map → p.role.kind.isMap = true) :
    (qs.flatMap fun q => q.contributions converters (arguments q.parameter)) =
      ps.flatMap fun p => p.calls plan converters (arguments p.name) := by
  induction h with
  | nil => rfl
  | @cons p q ps qs hq _ ih =>
    have hname : q.parameter = p.name := by
      obtain ⟨_, _, rfl⟩ := Outcome.map_eq_ok.mp hq
      rfl
    have hp : p ∈ p :: ps := List.mem_cons_self
    rw [List.flatMap_cons, List.flatMap_cons, hname,
      ParameterPlan.contributions_eq converters hq (hurl p hp) (hmap p hp),
      ih (fun p hp => hurl p (List.mem_cons_of_mem _ hp))
        (fun p hp => hmap p (List.mem_cons_of_mem _ hp))]

/-! ### What fits the encoding -/

/-- What is written fits an encoding and a template: fields go into a form, parts into several
parts, one body stands alone, and one address stands where no template is. -/
structure Orderly (encoding : Encoding) (template : String) (calls : List Contribution) : Prop where
  fields : .field ∈ calls.map Contribution.channel → encoding = .formUrlEncoded
  parts : .part ∈ calls.map Contribution.channel → encoding = .multipart
  bodies : .body ∈ calls.map Contribution.channel → encoding = .none
  one_body : (calls.map Contribution.channel).count .body ≤ 1
  urls : .url ∈ calls.map Contribution.channel → template = ""
  one_url : (calls.map Contribution.channel).count .url ≤ 1

/-- The contributions that are made of values that could be converted. -/
def converted (contributions : List (Except Failure Contribution)) : List Contribution :=
  contributions.filterMap Except.toOption

theorem mem_converted {contributions : List (Except Failure Contribution)} {c : Contribution} :
    c ∈ converted contributions ↔ .ok c ∈ contributions := by
  rw [converted, List.mem_filterMap]
  constructor
  · rintro ⟨e, he, hc⟩
    cases e with
    | error f => cases hc
    | ok d =>
      obtain rfl : d = c := Option.some.inj hc
      exact he
  · intro h
    exact ⟨_, h, rfl⟩

theorem converted_map_ok (calls : List Contribution) : converted (calls.map .ok) = calls := by
  induction calls with
  | nil => rfl
  | cons c calls ih => exact congrArg (c :: ·) ih

theorem ParameterDescriptor.length_calls_of_single {plan : ConverterPlan} {converters : Converters}
    {p : ParameterDescriptor} {a : Argument} (h : a.shape = .single) :
    (p.calls plan converters a).length = 1 := by
  cases a with
  | single c => rfl
  | _ => cases h

/-- A channel to which each parameter writes at most once gets no more than there are such
parameters. -/
theorem count_channel_le {ps : List ParameterDescriptor} (channel : Channel)
    {f : ParameterDescriptor → List (Except Failure Contribution)}
    (hchannel : ∀ p ∈ ps, ∀ c, .ok c ∈ f p → c.channel = p.role.kind.channel)
    (hone : ∀ p ∈ ps, p.role.kind.channel = channel → (f p).length ≤ 1) :
    ((converted (ps.flatMap f)).map Contribution.channel).count channel ≤
      ps.countP fun p => p.role.kind.channel == channel := by
  induction ps with
  | nil => simp [converted]
  | cons p ps ih =>
    have hrest := ih (fun q hq => hchannel q (List.mem_cons_of_mem _ hq))
      (fun q hq => hone q (List.mem_cons_of_mem _ hq))
    have hfirst : ((converted (f p)).map Contribution.channel).count channel ≤
        if p.role.kind.channel = channel then 1 else 0 := by
      split
      · next he =>
        refine le_trans List.count_le_length ?_
        rw [List.length_map]
        exact le_trans (List.length_filterMap_le _ _) (hone p List.mem_cons_self he)
      · next he =>
        rw [Nat.le_zero, List.count_eq_zero]
        intro hm
        obtain ⟨c, hc, hch⟩ := List.mem_map.mp hm
        rw [← hch] at he
        exact he (hchannel p List.mem_cons_self c (mem_converted.mp hc)).symm
    unfold converted at hfirst hrest ⊢
    rw [List.flatMap_cons, List.filterMap_append, List.map_append, List.count_append,
      List.countP_cons]
    simp only [beq_iff_eq]
    omega

theorem MethodDescriptor.channel_of_mem_calls {plan : ConverterPlan} {converters : Converters}
    {arguments : Arguments} {m : MethodDescriptor} {c : Contribution}
    (h : .ok c ∈ m.calls plan converters arguments) :
    c.channel = .header ∨ ∃ p ∈ m.parameters, c.channel = p.role.kind.channel := by
  rcases List.mem_append.mp h with h | h
  · obtain ⟨header, _, he⟩ := List.mem_map.mp h
    obtain rfl := Except.ok.inj he
    exact .inl rfl
  · obtain ⟨p, hp, hc⟩ := List.mem_flatMap.mp h
    exact .inr ⟨p, hp, ParameterDescriptor.channel_of_mem_calls hc⟩

theorem countP_channel {ps : List ParameterDescriptor} {kind : RoleKind} (hk : kind.isUnique) :
    (ps.countP fun p => p.role.kind.channel == kind.channel) = (roleKinds ps).count kind := by
  rw [roleKinds, List.count, List.countP_map]
  refine List.countP_congr fun p _ => ?_
  cases kind with
  | body | url =>
    rw [Function.comp_apply, beq_iff_eq, beq_iff_eq]
    cases p.role.kind <;> simp [RoleKind.channel]
  | _ => cases hk

theorem RoleKind.channel_allowed {kind : RoleKind} {encoding : Encoding}
    (h : kind.AllowedUnder encoding) :
    (kind.channel = .field → encoding = .formUrlEncoded) ∧
      (kind.channel = .part → encoding = .multipart) ∧
      (kind.channel = .body → encoding = .none) := by
  cases kind <;> simp_all [channel, AllowedUnder]

namespace Analyzed

variable {method : Method} {d : MethodDescriptor} (a : Analyzed method d)
include a

theorem valueType_isString {p : ParameterDescriptor} (hp : p ∈ d.parameters)
    (hk : p.role.kind = .url) : p.valueType.belongsTo .str = true := by
  have hc := a.inputs.classified hp
  rw [hk, classify_single rfl rfl rfl] at hc
  obtain ⟨_, hv⟩ := Prod.mk.inj (Option.some.inj hc)
  rw [← hv, Code.TypeExpr.belongsTo_strip]
  exact a.inputs.url_isString hp hk

theorem shape_single {p : ParameterDescriptor} (hp : p ∈ d.parameters)
    (hk : p.role.kind.isUnique = true) : p.shape = .single := by
  have hc := a.inputs.classified hp
  cases hkind : p.role.kind with
  | body | url =>
    rw [hkind, classify_single rfl rfl rfl] at hc
    exact (Prod.mk.inj (Option.some.inj hc)).1.symm
  | _ =>
    rw [hkind] at hk
    cases hk

/-- Every address that a parameter gives takes the place of an empty template. -/
theorem template_eq_empty (h : .url ∈ roleKinds d.parameters) : d.template = "" := by
  have hurl := urlSource_eq_ok.mp a.url
  rw [a.url_mem_iff.mp h] at hurl
  obtain ⟨_, p, _, he⟩ := hurl
  rw [MethodDescriptor.template, he]

variable {plan : ConverterPlan} {converters : Converters} {arguments : Arguments}

theorem count_unique_le_one (harguments : ∀ p ∈ d.parameters, (arguments p.name).shape = p.shape)
    (kind : RoleKind) (hk : kind.isUnique = true) :
    ((converted (d.calls plan converters arguments)).map Contribution.channel).count
      kind.channel ≤ 1 := by
  -- literal headers go to another channel, and only one parameter goes to this one
  have hheaders : ((converted (d.headers.map fun h =>
      .ok (.header h.header.name h.header.value))).map Contribution.channel).count
        kind.channel = 0 := by
    rw [List.count_eq_zero]
    intro hm
    obtain ⟨c, hc, hch⟩ := List.mem_map.mp hm
    obtain ⟨header, _, he⟩ := List.mem_map.mp (mem_converted.mp hc)
    obtain rfl := Except.ok.inj he
    cases kind <;> cases hk <;> cases hch
  have hparameters := count_channel_le kind.channel
    (f := fun p => p.calls plan converters (arguments p.name))
    (fun p _ c hc => ParameterDescriptor.channel_of_mem_calls hc) (by
      intro p hp hch
      have hpk : p.role.kind.isUnique = true := by
        cases kind <;> cases hk <;> cases hkind : p.role.kind <;>
          simp_all [RoleKind.channel] <;> rfl
      have hs := harguments p hp
      rw [a.shape_single hp hpk] at hs
      rw [ParameterDescriptor.length_calls_of_single hs])
  rw [countP_channel hk] at hparameters
  have hcount := a.inputs.count_le_one kind hk (by simp [roleKinds])
  unfold converted at hheaders hparameters ⊢
  rw [MethodDescriptor.calls, List.filterMap_append, List.map_append, List.count_append]
  simp only [List.nil_append] at hcount
  omega

theorem orderly (harguments : ∀ p ∈ d.parameters, (arguments p.name).shape = p.shape) :
    Orderly d.encoding d.template (converted (d.calls plan converters arguments)) := by
  have hrole {channel : Channel} (hne : channel ≠ .header) (hm : channel ∈
      (converted (d.calls plan converters arguments)).map Contribution.channel) :
      ∃ p ∈ d.parameters, p.role.kind.channel = channel := by
    obtain ⟨c, hc, rfl⟩ := List.mem_map.mp hm
    rcases MethodDescriptor.channel_of_mem_calls (mem_converted.mp hc) with he | ⟨p, hp, he⟩
    · exact absurd he hne
    · exact ⟨p, hp, he.symm⟩
  refine ⟨?_, ?_, ?_, a.count_unique_le_one harguments .body rfl, ?_,
    a.count_unique_le_one harguments .url rfl⟩
  · intro hm
    obtain ⟨p, hp, hk⟩ := hrole (by decide) hm
    exact (RoleKind.channel_allowed (a.inputs.allowed hp)).1 hk
  · intro hm
    obtain ⟨p, hp, hk⟩ := hrole (by decide) hm
    exact (RoleKind.channel_allowed (a.inputs.allowed hp)).2.1 hk
  · intro hm
    obtain ⟨p, hp, hk⟩ := hrole (by decide) hm
    exact (RoleKind.channel_allowed (a.inputs.allowed hp)).2.2 hk
  · intro hm
    obtain ⟨p, hp, hk⟩ := hrole (by decide) hm
    apply a.template_eq_empty
    have hurl : p.role.kind = .url := by cases hkind : p.role.kind <;> simp_all [RoleKind.channel]
    exact List.mem_map.mpr ⟨p, hp, hurl⟩

theorem contributions_eq (converters : Converters) {r : RequestPlan}
    (hr : RequestPlan.ofMethod plan d = .ok r)
    (harguments : ∀ p ∈ d.parameters, (arguments p.name).shape = p.shape) :
    r.contributions converters arguments = d.calls plan converters arguments := by
  obtain ⟨qs, hqs, rfl⟩ := RequestPlan.ofMethod_eq_ok.mp hr
  have hparameters := flatMap_contributions_eq converters hqs
    (fun p hp hk => a.valueType_isString hp hk) (fun p hp hs => by
      rw [harguments p hp] at hs
      exact (classify_map_iff (a.inputs.classified hp)).mp hs)
  unfold RequestPlan.contributions MethodDescriptor.calls
  rw [hparameters, List.map_map]
  rfl

end Analyzed

/-! ### What becomes of it -/

/-- A request is made of what is written: nothing that is written is left out, and everything of one
kind stands in the order in which it is written. -/
structure Carries (r : RequestPlan) (baseUrl : String) (calls : List Contribution)
    (request : Request) : Prop where
  headers : request.headers = calls.filterMap Contribution.header?
  fields : r.encoding = .formUrlEncoded → request.payload =
    .body (.form (String.ofList (['&'].intercalate (calls.filterMap Contribution.field?))))
  parts : r.encoding = .multipart →
    request.payload = .multipart (calls.filterMap Contribution.part?)
  body : r.encoding = .none →
    request.payload =
      (((calls.filterMap Contribution.body?).getLast?).map Http.Payload.body).getD .empty
  url : request.url.toList = RequestBuilder.withQuery (calls.filterMap Contribution.query?)
    (Http.resolve baseUrl.toList (Template.substitute
      ((calls.filterMap Contribution.url?).getLast?.getD r.template).toList
      (calls.filterMap Contribution.path?)))
  query : calls.filterMap Contribution.query? ≠ [] →
    ['&'].intercalate (calls.filterMap Contribution.query?) <:+: request.url.toList

theorem carries_of_build {r : RequestPlan} {converters : Converters} {arguments : Arguments}
    {baseUrl : String} {request : Request}
    (h : r.build converters baseUrl arguments = .ok request) :
    ∃ calls, r.contributions converters arguments = calls.map .ok ∧
      Carries r baseUrl calls request := by
  obtain ⟨b, hb, hbuild⟩ := Outcome.bind_eq_ok.mp h
  obtain ⟨calls, hcalls, rfl⟩ := RequestBuilder.foldlM_add_eq_ok hb
  obtain ⟨_, rfl⟩ := RequestBuilder.build_eq_ok.mp hbuild
  refine ⟨calls, hcalls, ?_, ?_, ?_, ?_, ?_, ?_⟩
  · simp [RequestBuilder.after, RequestBuilder.new]
  · intro he
    simp [RequestBuilder.after, RequestBuilder.new, RequestBuilder.payload, he]
  · intro he
    simp [RequestBuilder.after, RequestBuilder.new, RequestBuilder.payload, he]
  · intro he
    simp [RequestBuilder.after, RequestBuilder.new, RequestBuilder.payload, he]
  · simp [RequestBuilder.after, RequestBuilder.new, RequestBuilder.url, RequestBuilder.address]
  · intro hne
    have hinfix := RequestBuilder.infix_withQuery
      ((RequestBuilder.new r.verb baseUrl r.template r.encoding).after calls).address hne
    simpa [RequestBuilder.after, RequestBuilder.new, RequestBuilder.url] using hinfix

/-- A method writes its literal headers and what its parameters write, in this order; what it writes
fits the encoding, and a request carries all of it. -/
theorem request_carries_arguments {method : Method} {m : MethodDescriptor}
    (hm : analyzeMethod method = .ok m) {plan : ConverterPlan} {r : RequestPlan}
    (hr : RequestPlan.ofMethod plan m = .ok r) (converters : Converters) {arguments : Arguments}
    (harguments : ∀ p ∈ m.parameters, (arguments p.name).shape = p.shape) :
    ListsHeaders method.attributes m.headers ∧
      r.contributions converters arguments = m.calls plan converters arguments ∧
      Orderly r.encoding r.template (converted (r.contributions converters arguments)) ∧
      ∀ baseUrl request, r.build converters baseUrl arguments = .ok request →
        ∃ calls, r.contributions converters arguments = calls.map .ok ∧
          Orderly r.encoding r.template calls ∧ Carries r baseUrl calls request := by
  obtain ⟨a⟩ := analyzeMethod_eq_ok.mp hm
  have hcalls := a.contributions_eq converters hr harguments
  have horderly : Orderly r.encoding r.template
      (converted (r.contributions converters arguments)) := by
    obtain ⟨qs, _, rfl⟩ := RequestPlan.ofMethod_eq_ok.mp hr
    rw [hcalls]
    exact a.orderly harguments
  refine ⟨a.listsHeaders, hcalls, horderly, ?_⟩
  intro baseUrl request hbuild
  obtain ⟨calls, hwritten, hcarries⟩ := carries_of_build hbuild
  rw [hwritten, converted_map_ok] at horderly
  exact ⟨calls, hwritten, horderly, hcarries⟩

/-! ### The tags of a method -/

/-- Converters that take texts as they are and nothing else. -/
def plainConverters : Converters
  | .string, _ => fun c => .ok c.asText
  | kind, _ => kind.failing jsonFailure

/-- A plan with a converter for the tags of the method. -/
def tagPlan : ConverterPlan :=
  ⟨[⟨"u32_string_converter", ⟨.string, plainType "u32"⟩⟩], ⟨.initial, []⟩⟩

/-- What the method does to build its request. -/
def announceRequest : RequestPlan where
  verb := .post
  template := ""
  encoding := .formUrlEncoded
  headers := [⟨"X-Kind", "tags"⟩]
  parameters := [
    ⟨"target", .url, .single, plainType "str", .text⟩,
    ⟨"tags", .field "tags" false, .repeated, plainType "u32", .string "u32_string_converter"⟩]

/-- An address and two tags. -/
def announceArguments : Arguments := fun name =>
  if name = "target" then .single (.text "/t") else .repeated [.text "a b", .text "c"]

/-- What the method writes with them. -/
def announceCalls : List Contribution :=
  [.header "X-Kind" "tags", .url "/t", .field "tags" "a b" false, .field "tags" "c" false]

/-- The request that carries them. -/
def announceSent : Request :=
  ⟨.post, "https://h/t", [("X-Kind", "tags")], .body (.form "tags=a+b&tags=c")⟩

theorem announceRequest_build :
    announceRequest.build plainConverters "https://h" announceArguments = .ok announceSent := by
  have hcalls : announceRequest.contributions plainConverters announceArguments =
      announceCalls.map .ok := by rfl
  have hurl : ((RequestBuilder.new .post "https://h" "" .formUrlEncoded).after
      announceCalls).url = "https://h/t".toList := by
    have hsubstitute : Template.substitute "/t".toList [] = "/t".toList := by
      decide +kernel
    show RequestBuilder.withQuery [] (Http.resolve "https://h".toList
      (Template.substitute "/t".toList [])) = "https://h/t".toList
    rw [hsubstitute]
    decide +kernel
  unfold RequestPlan.build
  rw [hcalls]
  refine Outcome.bind_eq_ok.mpr ⟨(RequestBuilder.new .post "https://h" "" .formUrlEncoded).after
    announceCalls, by rfl, RequestBuilder.build_eq_ok.mpr ?_⟩
  rw [hurl]
  exact ⟨by decide +kernel, by decide +kernel⟩

theorem request_carries_two_tags :
    analyzeMethod announce = .ok announced ∧
      RequestPlan.ofMethod tagPlan announced = .ok announceRequest ∧
      (∀ p ∈ announced.parameters, (announceArguments p.name).shape = p.shape) ∧
      announceRequest.build plainConverters "https://h" announceArguments = .ok announceSent ∧
      Orderly .formUrlEncoded ""
        (converted (announceRequest.contributions plainConverters announceArguments)) ∧
      ∃ calls, announceRequest.contributions plainConverters announceArguments = calls.map .ok ∧
        Orderly .formUrlEncoded "" calls ∧
        Carries announceRequest "https://h" calls announceSent := by
  have hmethod : analyzeMethod announce = .ok announced := by rfl
  have hrequest : RequestPlan.ofMethod tagPlan announced = .ok announceRequest := by rfl
  have hshapes : ∀ p ∈ announced.parameters, (announceArguments p.name).shape = p.shape := by
    intro p hp
    simp only [announced, List.mem_cons, List.not_mem_nil, or_false] at hp
    rcases hp with rfl | rfl <;> rfl
  obtain ⟨_, _, horderly, hcarries⟩ :=
    request_carries_arguments hmethod hrequest plainConverters hshapes
  exact ⟨hmethod, hrequest, hshapes, announceRequest_build, horderly,
    hcarries _ _ announceRequest_build⟩

end RestClient
