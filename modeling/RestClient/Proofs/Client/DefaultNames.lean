import RestClient.Proofs.Client.Contributions
import RestClient.Proofs.Client.Hygiene
import RestClient.Proofs.Interface.RoleArguments
import RestClient.Proofs.Template.Occurrences

/-!
# Names that come from parameters

Where an attribute gives no name, a role takes the name of its parameter as it is declared. The mark
of a raw identifier stays in it, though it is no part of the identifier: a placeholder never has
such a name, and a request gets it with the mark. A parameter without the mark has its own name.

## Main definitions

- `explicitName?` — the name that an attribute gives
- `GivenName`, `DefaultName` — where the names in a request come from

## Main results

- `Role.name?_of_ofAttribute` — the names of roles
- `checkPlaceholders_singleton_iff` — the names that a template with one placeholder accepts
- `default_names_as_declared` — names of roles, of placeholders and in requests
-/

namespace RestClient

open Code (Attribute Method TypedInput)
open Http (Contribution Failure Request)
open Template (HasPlaceholder placeholders)

/-! ### Names of roles -/

/-- The name that an attribute gives. -/
def explicitName? (a : Attribute) : Option String :=
  match a.item.form with
  | .list _ trees group =>
    (RoleArguments.read trees group.lastChar).toOption.bind fun arguments => arguments.meaning.1
  | _ => none

/-- A role has the name that its attribute gives, or else that of the parameter as it is
declared. -/
theorem Role.name?_of_ofAttribute {a : Attribute} {kind : RoleKind} {parameter : String}
    {role : Role} (h : Role.ofAttribute a kind parameter = .ok role) : role.name? =
      if kind.acceptsName then some ((explicitName? a).getD parameter) else none := by
  unfold Role.ofAttribute at h
  unfold explicitName?
  cases hform : a.item.form with
  | path =>
    rw [hform] at h
    exact (Role.of_ofArguments h).1
  | list d trees group =>
    rw [hform] at h
    dsimp only at h ⊢
    cases hread : RoleArguments.read trees group.lastChar with
    | error e =>
      rw [hread] at h
      cases h
    | ok arguments =>
      rw [hread] at h
      exact (Role.of_ofArguments h).1
  | nameValue value =>
    rw [hform] at h
    cases h

/-! ### Names for placeholders -/

/-- A template with one placeholder accepts one path parameter, which has its name. -/
theorem checkPlaceholders_singleton_iff {template n parameter : String}
    (hquery : ∀ name, ¬ HasPlaceholder (queryPart template.toList) name)
    (hone : placeholders template.toList = [n.toList]) :
    checkPlaceholders template [parameter] = .ok () ↔ parameter = n := by
  rw [checkPlaceholders_eq_ok, hone, and_iff_right hquery, List.map_singleton,
    List.singleton_perm_singleton]
  exact ⟨fun h => String.toList_injective h, congrArg String.toList⟩

/-! ### Names in requests -/

/-- The name of a pair in the query, of a field or of a part. -/
def Http.Contribution.pairName? : Contribution → Option String
  | .query name _ _ | .field name _ _ | .part name _ => some name
  | _ => none

/-- The inputs or the arguments give a name: an attribute does, or it is the key of an entry. -/
def GivenName (d : MethodDescriptor) (inputs : List TypedInput) (arguments : Arguments)
    (name : String) : Prop :=
  (∃ p ∈ d.parameters, ∃ entries, arguments p.name = .map entries ∧
    name ∈ entries.map Prod.fst) ∨
  ∃ input ∈ inputs, ∃ a ∈ input.attributes, explicitName? a = some name

/-- An input that has no name from its attribute is declared with a name. -/
def DefaultName (inputs : List TypedInput) (name : String) : Prop :=
  ∃ input ∈ inputs, input.ident? = some name ∧ ∃ kind a,
    (kind, a) ∈ rolesAmong input.attributes ∧ kind ∈ [RoleKind.query, .field, .part] ∧
      explicitName? a = none

/-- A role writes a pair under its own name, or under the key of an entry. -/
theorem Role.pairName_of_call {role : Role} {key name : String} {text : Except Failure String}
    {content : Except Failure Http.RequestBody} {c : Contribution}
    (h : role.call key text content = .ok c) (hname : c.pairName? = some name) :
    (role.kind ∈ [RoleKind.query, .field, .part] ∧ role.name? = some name) ∨
      (role.kind.isMap = true ∧ name = key) := by
  cases role with
  | query own encoded | field own encoded | part own =>
    obtain ⟨_, _, rfl⟩ := Outcome.map_eq_ok.mp h
    exact .inl ⟨by simp [Role.kind], hname⟩
  | queryMap encoded | fieldMap encoded | partMap =>
    obtain ⟨_, _, rfl⟩ := Outcome.map_eq_ok.mp h
    exact .inr ⟨rfl, (Option.some.inj hname).symm⟩
  | _ =>
    obtain ⟨_, _, rfl⟩ := Outcome.map_eq_ok.mp h
    cases hname

theorem ParameterDescriptor.pairName_of_mem_calls {plan : ConverterPlan} {converters : Converters}
    {p : ParameterDescriptor} {a : Argument} {c : Contribution} {name : String}
    (hmap : p.role.kind.isMap = true → a.shape = .map)
    (h : .ok c ∈ p.calls plan converters a) (hname : c.pairName? = some name) :
    (p.role.kind ∈ [RoleKind.query, .field, .part] ∧ p.role.name? = some name) ∨
      ∃ entries, a = .map entries ∧ name ∈ entries.map Prod.fst := by
  have hown {key : String} {value : Json.Content} (hshape : a.shape ≠ .map)
      (hcall : p.call plan converters key value = .ok c) :
      p.role.kind ∈ [RoleKind.query, .field, .part] ∧ p.role.name? = some name := by
    rcases Role.pairName_of_call hcall hname with hrole | ⟨hkind, -⟩
    · exact hrole
    · exact absurd (hmap hkind) hshape
  cases a with
  | single v => exact .inl (hown nofun (List.mem_singleton.mp h).symm)
  | optional v =>
    obtain ⟨_, _, hcall⟩ := List.mem_map.mp h
    exact .inl (hown nofun hcall)
  | repeated vs =>
    obtain ⟨_, _, hcall⟩ := List.mem_map.mp h
    exact .inl (hown nofun hcall)
  | map entries =>
    obtain ⟨⟨key, value⟩, hentry, hcall⟩ := List.mem_map.mp h
    rcases Role.pairName_of_call hcall hname with hrole | ⟨-, rfl⟩
    · exact .inl hrole
    · exact .inr ⟨entries, rfl, List.mem_map_of_mem hentry⟩

/-- The name of a parameter's role is given by its attribute, or is declared. -/
theorem ReadsParameter.name_source {encoding : Encoding} {before : List ParameterDescriptor}
    {input : TypedInput} {p : ParameterDescriptor} {name : String}
    (h : ReadsParameter encoding before input p) (hname : p.role.name? = some name) :
    ∃ a, (p.role.kind, a) ∈ rolesAmong input.attributes ∧ (explicitName? a = some name ∨
      explicitName? a = none ∧ input.ident? = some name) := by
  obtain ⟨a, hroles, hrole⟩ := h.role
  have hmem : (p.role.kind, a) ∈ rolesAmong input.attributes := by
    rw [← (rolesOf_eq_ok.mp hroles).2]
    exact List.mem_singleton_self _
  refine ⟨a, hmem, ?_⟩
  rw [Role.name?_of_ofAttribute hrole] at hname
  cases hexplicit : explicitName? a with
  | some given =>
    rw [hexplicit] at hname
    exact .inl ((Option.ite_some_none_eq_some.mp hname).2 ▸ rfl)
  | none =>
    rw [hexplicit] at hname
    exact .inr ⟨rfl, (Option.ite_some_none_eq_some.mp hname).2 ▸ h.name⟩

theorem Analyzed.name_source {method : Method} {d : MethodDescriptor} (a : Analyzed method d)
    {plan : ConverterPlan} {converters : Converters} {arguments : Arguments}
    (harguments : ∀ p ∈ d.parameters, (arguments p.name).shape = p.shape) {c : Contribution}
    (hc : .ok c ∈ d.calls plan converters arguments) {name : String}
    (hname : c.pairName? = some name) :
    GivenName d method.signature.typedInputs arguments name ∨
      DefaultName method.signature.typedInputs name := by
  rcases List.mem_append.mp hc with hheader | hparameter
  · obtain ⟨header, _, he⟩ := List.mem_map.mp hheader
    obtain rfl := Except.ok.inj he
    cases hname
  · obtain ⟨p, hp, hcall⟩ := List.mem_flatMap.mp hparameter
    have hmap (hkind : p.role.kind.isMap = true) : (arguments p.name).shape = .map := by
      rw [harguments p hp]
      exact (classify_map_iff (a.inputs.classified hp)).mpr hkind
    rcases ParameterDescriptor.pairName_of_mem_calls hmap hcall hname with
      ⟨hkind, hrole⟩ | ⟨entries, hentries, hkey⟩
    · obtain ⟨_, input, hinput, hread⟩ := a.inputs.reads hp
      obtain ⟨role, hmem, hsource⟩ := hread.name_source hrole
      rcases hsource with hgiven | ⟨hnone, hdeclared⟩
      · exact .inl (.inr ⟨input, hinput, role, (mem_rolesAmong.mp hmem).1, hgiven⟩)
      · exact .inr ⟨input, hinput, hdeclared, _, role, hmem, hkind, hnone⟩
    · exact .inl (.inl ⟨p, hp, entries, hentries, hkey⟩)

theorem raw_ne (n : String) : "r#" ++ n ≠ n := by
  intro h
  have hlength := congrArg String.length h
  rw [String.length_append] at hlength
  have hmark : "r#".length = 2 := rfl
  omega

/-- A parameter that is declared as an identifier or as the same raw identifier gives a role its
name exactly where it is declared without the mark, and so it is with the placeholder of a template
that has no other. The names of the pairs, fields and parts of a request are those that the
attributes or the keys of the arguments give, or else those of the parameters as declared. -/
theorem default_names_as_declared {n parameter : String}
    (hdeclared : parameter = n ∨ parameter = "r#" ++ n) :
    (∀ a kind role, explicitName? a = none → kind ∈ [RoleKind.path, .query, .field, .part] →
      Role.ofAttribute a kind parameter = .ok role →
        (role.name? = some n ↔ parameter ≠ "r#" ++ n)) ∧
    (∀ template, (∀ name, ¬ HasPlaceholder (queryPart template.toList) name) →
      placeholders template.toList = [n.toList] →
        (checkPlaceholders template [parameter] = .ok () ↔ parameter ≠ "r#" ++ n)) ∧
    ∀ method d plan r converters arguments baseUrl request, analyzeMethod method = .ok d →
      RequestPlan.ofMethod plan d = .ok r →
      (∀ p ∈ d.parameters, (arguments p.name).shape = p.shape) →
      r.build converters baseUrl arguments = .ok request →
        ∃ calls, r.contributions converters arguments = calls.map .ok ∧
          Carries r baseUrl calls request ∧
          ∀ c ∈ calls, ∀ name, c.pairName? = some name →
            GivenName d method.signature.typedInputs arguments name ∨
              DefaultName method.signature.typedInputs name := by
  have hplain : parameter = n ↔ parameter ≠ "r#" ++ n := by
    constructor
    · rintro rfl
      exact (raw_ne parameter).symm
    · exact hdeclared.resolve_right
  refine ⟨fun a kind role hnone hkind hrole => ?_, fun template hquery hone => ?_,
    fun method d plan r converters arguments baseUrl request hd hr harguments hbuild => ?_⟩
  · have haccepts : kind.acceptsName = true :=
      RoleKind.acceptsName_iff.mpr (List.mem_append_left [RoleKind.header] hkind)
    rw [Role.name?_of_ofAttribute hrole, haccepts, hnone, ← hplain]
    exact Option.some_inj
  · rw [checkPlaceholders_singleton_iff hquery hone]
    exact hplain
  · obtain ⟨a⟩ := analyzeMethod_eq_ok.mp hd
    obtain ⟨calls, hwritten, hcarries⟩ := carries_of_build hbuild
    refine ⟨calls, hwritten, hcarries, fun c hc name hname => ?_⟩
    have hcall : .ok c ∈ d.calls plan converters arguments := by
      rw [← a.contributions_eq converters hr harguments, hwritten]
      exact List.mem_map_of_mem hc
    exact a.name_source harguments hcall hname

theorem default_names_as_declared_tags :
    (∀ role, Role.ofAttribute (flagAttribute "field") .field "tags" = .ok role →
      role.name? = some "tags") ∧
    checkPlaceholders "/\x7btags\x7d" ["tags"] = .ok () ∧
    ∃ calls, announceRequest.contributions plainConverters announceArguments = calls.map .ok ∧
      Carries announceRequest "https://h" calls announceSent ∧
      ∀ c ∈ calls, ∀ name, c.pairName? = some name →
        GivenName announced announce.signature.typedInputs announceArguments name ∨
          DefaultName announce.signature.typedInputs name := by
  obtain ⟨hroles, htemplates, hrequests⟩ :=
    default_names_as_declared (n := "tags") (.inl (Eq.refl "tags"))
  have hquery : ∀ name, ¬ HasPlaceholder (queryPart "/\x7btags\x7d".toList) name := by
    rw [← Template.placeholders_isEmpty_iff]
    decide
  have hshapes : ∀ p ∈ announced.parameters, (announceArguments p.name).shape = p.shape := by
    intro p hp
    simp only [announced, List.mem_cons, List.not_mem_nil, or_false] at hp
    rcases hp with rfl | rfl <;> rfl
  refine ⟨fun role hrole => ?_, ?_, ?_⟩
  · exact (hroles _ .field role rfl (by decide) hrole).mpr (by decide)
  · exact (htemplates _ hquery (by decide)).mpr (by decide)
  · exact hrequests announce announced tagPlan announceRequest plainConverters announceArguments
      "https://h" announceSent (by rfl) (by rfl) hshapes announceRequest_build

/-- A parameter `r#type` gives its role the name `r#type`, which no placeholder has, and which is
escaped with its mark in the query of a request. -/
theorem raw_default_name_keeps_mark :
    Role.ofAttribute (flagAttribute "path") .path "r#type" = .ok (.path "r#type" false) ∧
      checkPlaceholders "/\x7btype\x7d" ["r#type"] = .error (.missingPath "type") ∧
      analyzeMethod (findBy "r#type") = .ok (foundBy "r#type") ∧
      (foundBy "r#type").calls ⟨[], ⟨.initial, []⟩⟩ plainConverters
          (fun _ => .single (.text "v")) = [.ok (.query "r#type" "v" false)] ∧
      Http.encodePair "r#type" "v" false = "r%23type=v".toList := by
  refine ⟨by rfl, by decide +kernel, by rfl, by rfl, by decide +kernel⟩

end RestClient
