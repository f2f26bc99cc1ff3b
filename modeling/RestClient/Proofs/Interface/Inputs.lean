import RestClient.Proofs.Interface.Markers

/-!
# Parameters among the inputs

Each input of a method becomes a parameter, checked beside the parameters before it, or the
callback, which ends the list. The rules of the roles make the parameters fit together: what they
contribute is what the encoding of the body allows.

## Main definitions

- `ReadsParameter`, `ReadsCallback` — what an input becomes
- `ReadsInputs` — the inputs read one after the other
- `RoleKind.AllowedUnder`, `RoleKind.isUnique` — the rules of the roles
-/

namespace RestClient

open Code (TypeExpr TypedInput Attribute)

/-! ### Roles -/

/-- The role of an attribute is of the kind that its marker names. -/
theorem Role.ofArguments_kind {kind : RoleKind} {arguments : RoleArguments} {name : String}
    {anchor : Anchor} {role : Role} (h : Role.ofArguments kind arguments name anchor = .ok role) :
    role.kind = kind := by
  unfold Role.ofArguments at h
  split at h
  · cases h
  · split at h
    · cases h
    · cases kind with
      | header =>
        simp only at h
        split at h
        · obtain rfl := Except.ok.inj h
          rfl
        · cases h
      | _ =>
        obtain rfl := Except.ok.inj h
        rfl

theorem Role.ofAttribute_kind {a : Attribute} {kind : RoleKind} {name : String} {role : Role}
    (h : Role.ofAttribute a kind name = .ok role) : role.kind = kind := by
  unfold Role.ofAttribute at h
  split at h
  · exact ofArguments_kind h
  · split at h
    · cases h
    · exact ofArguments_kind h
  · cases h

/-- The roles among attributes, with their attributes. -/
def rolesAmong (attributes : List Attribute) : List (RoleKind × Attribute) :=
  attributes.filterMap fun a => ((markerOf a).bind Marker.role?).map (·, a)

theorem rolesAmong_kinds (attributes : List Attribute) :
    (rolesAmong attributes).map Prod.fst = roleKindsOf attributes := by
  rw [rolesAmong, roleKindsOf, List.map_filterMap]
  refine List.filterMap_congr fun a _ => ?_
  cases (markerOf a).bind Marker.role? <;> rfl

theorem mem_rolesAmong {attributes : List Attribute} {kind : RoleKind} {a : Attribute} :
    (kind, a) ∈ rolesAmong attributes ↔ a ∈ attributes ∧ markerOf a = some (.role kind) := by
  rw [rolesAmong, List.mem_filterMap]
  constructor
  · rintro ⟨b, hb, h⟩
    obtain ⟨k, hk, he⟩ := Option.map_eq_some_iff.mp h
    obtain ⟨rfl, rfl⟩ := Prod.mk.inj he
    obtain ⟨marker, hm, hrole⟩ := Option.bind_eq_some_iff.mp hk
    cases marker with
    | role kind' =>
      obtain rfl : kind' = k := Option.some.inj hrole
      exact ⟨hb, hm⟩
    | _ => cases hrole
  · rintro ⟨ha, hm⟩
    exact ⟨a, ha, by rw [hm]; rfl⟩

/-- The roles of an input can be told unless one of its attributes belongs on a method. -/
theorem rolesOf_eq_ok {input : TypedInput} {attributes : List Attribute}
    {roles : List (RoleKind × Attribute)} :
    rolesOf input attributes = .ok roles ↔
      (∀ a ∈ attributes, ∀ marker, markerOf a = some marker → marker.isMethodLevel = false) ∧
        roles = rolesAmong attributes := by
  induction attributes generalizing roles with
  | nil =>
    constructor
    · intro h
      exact ⟨List.forall_mem_nil _, (Except.ok.inj h).symm⟩
    · rintro ⟨_, rfl⟩
      rfl
  | cons a rest ih =>
    rw [rolesOf, List.forall_mem_cons]
    cases hm : markerOf a with
    | none =>
      have hroles : rolesAmong (a :: rest) = rolesAmong rest := by simp [rolesAmong, hm]
      simp [ih, hroles]
    | some marker =>
      cases marker with
      | role kind =>
        have hroles : rolesAmong (a :: rest) = (kind, a) :: rolesAmong rest := by
          simp [rolesAmong, hm, Marker.role?]
        simp only [Outcome.map_eq_ok, ih, hroles]
        constructor
        · rintro ⟨later, ⟨hrest, rfl⟩, rfl⟩
          refine ⟨⟨fun marker h => ?_, hrest⟩, rfl⟩
          obtain rfl := Option.some.inj h
          rfl
        · rintro ⟨⟨_, hrest⟩, rfl⟩
          exact ⟨_, ⟨hrest, rfl⟩, rfl⟩
      | _ =>
        refine ⟨fun h => ?_, fun h => ?_⟩
        · cases h
        · cases h.1.1 _ rfl

/-- The roles of an input are those that its attributes name. -/
theorem rolesOf_kinds {input : TypedInput} {attributes : List Attribute}
    {roles : List (RoleKind × Attribute)} (h : rolesOf input attributes = .ok roles) :
    roles.map Prod.fst = roleKindsOf attributes := by
  rw [(rolesOf_eq_ok.mp h).2, rolesAmong_kinds]

theorem hasRole_iff {kind : RoleKind} {input : TypedInput} :
    hasRole kind input = true ↔ kind ∈ roleKindsOf input.attributes := by
  rw [hasRole, roleKindsOf, List.any_eq_true, List.mem_filterMap]
  refine exists_congr fun a => and_congr_right fun _ => ?_
  cases hm : markerOf a with
  | none => simp
  | some marker => cases marker <;> simp [Marker.role?]

/-! ### The rules of roles -/

/-- The encodings under which a role may stand. -/
def RoleKind.AllowedUnder (encoding : Encoding) : RoleKind → Prop
  | field | fieldMap => encoding = .formUrlEncoded
  | part | partMap => encoding = .multipart
  | body => encoding = .none
  | _ => True

/-- The roles that one parameter of a method may have. -/
def RoleKind.isUnique : RoleKind → Bool
  | body | url => true
  | _ => false

/-- The kinds of the roles of parameters. -/
def roleKinds (ps : List ParameterDescriptor) : List RoleKind :=
  ps.map fun p => p.role.kind

theorem any_kind_eq_false {before : List ParameterDescriptor} {kind : RoleKind} :
    (before.any fun p => p.role.kind == kind) = false ↔ kind ∉ roleKinds before := by
  simp [roleKinds]

theorem roleRule_eq_none {encoding : Encoding} {before : List ParameterDescriptor}
    {type : TypeExpr} {kind : RoleKind} :
    roleRule encoding before type kind = none ↔
      kind.AllowedUnder encoding ∧ (kind.isUnique → kind ∉ roleKinds before) ∧
        (kind = .url → type.belongsTo .str) := by
  cases kind with
  | body =>
    cases encoding with
    | none =>
      cases hb : before.any fun p => p.role.kind == .body with
      | true =>
        have hmem : RoleKind.body ∈ roleKinds before := by
          by_contra hn
          simp [any_kind_eq_false.mpr hn] at hb
        simp [roleRule, hb, RoleKind.isUnique, hmem]
      | false =>
        have hn := any_kind_eq_false.mp hb
        simp [roleRule, hb, RoleKind.AllowedUnder, hn]
    | formUrlEncoded | multipart => simp [roleRule, RoleKind.AllowedUnder]
  | url =>
    cases hb : before.any fun p => p.role.kind == .url with
    | true =>
      have hmem : RoleKind.url ∈ roleKinds before := by
        by_contra hn
        simp [any_kind_eq_false.mpr hn] at hb
      simp [roleRule, hb, RoleKind.isUnique, hmem]
    | false =>
      have hn := any_kind_eq_false.mp hb
      simp [roleRule, hb, RoleKind.AllowedUnder, hn]
  | _ => simp [roleRule, RoleKind.AllowedUnder, RoleKind.isUnique]

/-! ### What an input becomes -/

/-- An input is a parameter beside those before it. -/
structure ReadsParameter (encoding : Encoding) (before : List ParameterDescriptor)
    (input : TypedInput) (p : ParameterDescriptor) : Prop where
  name : input.ident? = some p.name
  role : ∃ a, rolesOf input input.attributes = .ok [(p.role.kind, a)] ∧
    Role.ofAttribute a p.role.kind p.name = .ok p.role
  implTrait : input.type.isImplTrait = false
  classified : classify input.type p.role.kind = some (p.shape, p.valueType)
  rule : roleRule encoding before input.type p.role.kind = none
  type : p.type = input.type
  span : p.span = input.identSpan

/-- An input is the callback. -/
structure ReadsCallback (input : TypedInput) (c : CallbackDescriptor) : Prop where
  name : input.ident? = some c.name
  role : rolesOf input input.attributes = .ok []
  item : input.type.boundArgument? "ResponseCallback" 0 = some c.item
  owned : input.type.isBorrowed = false

theorem analyzeCallback_eq_ok {input : TypedInput} {name : String} {isLast : Bool}
    {c : CallbackDescriptor} :
    analyzeCallback input name isLast = .ok c ↔
      input.type.boundArgument? "ResponseCallback" 0 = some c.item ∧
        input.type.isBorrowed = false ∧ isLast = true ∧ c.name = name := by
  unfold analyzeCallback
  cases hb : input.type.boundArgument? "ResponseCallback" 0 with
  | none => simp [broken]
  | some item =>
    cases hbor : input.type.isBorrowed with
    | true => simp [broken]
    | false =>
      cases isLast with
      | false => simp [broken]
      | true =>
        cases c
        simp [and_comm, eq_comm]

theorem analyzeParameter_eq_ok {encoding : Encoding} {before : List ParameterDescriptor}
    {input : TypedInput} {name : String} {kind : RoleKind} {a : Attribute}
    {p : ParameterDescriptor} :
    analyzeParameter encoding before input name kind a = .ok p ↔
      input.type.isImplTrait = false ∧ Role.ofAttribute a kind name = .ok p.role ∧
        classify input.type kind = some (p.shape, p.valueType) ∧
        roleRule encoding before input.type kind = none ∧
        p.name = name ∧ p.type = input.type ∧ p.span = input.identSpan := by
  unfold analyzeParameter
  cases hi : input.type.isImplTrait with
  | true => simp [broken]
  | false =>
    cases hr : Role.ofAttribute a kind name with
    | error d => simp
    | ok role =>
      cases hc : classify input.type kind with
      | none => simp [broken]
      | some found =>
        cases hrule : roleRule encoding before input.type kind with
        | some v => simp [broken]
        | none =>
          cases p
          simp only [Bool.false_eq_true, if_false, Except.ok.injEq, ParameterDescriptor.mk.injEq,
            Option.some.injEq, true_and]
          constructor
          · rintro ⟨rfl, rfl, rfl, rfl, rfl, rfl⟩
            exact ⟨rfl, rfl, rfl, rfl, rfl⟩
          · rintro ⟨rfl, rfl, rfl, rfl, rfl⟩
            exact ⟨rfl, rfl, rfl, rfl, rfl, rfl⟩

theorem analyzeInput_eq_parameter {encoding : Encoding} {before : List ParameterDescriptor}
    {isLast : Bool} {input : TypedInput} {p : ParameterDescriptor} :
    analyzeInput encoding before isLast input = .ok (.inl p) ↔
      ReadsParameter encoding before input p := by
  constructor
  · intro h
    unfold analyzeInput at h
    split at h
    · simp [broken] at h
    · next name hname =>
      split at h
      · cases h
      · simp [Outcome.map_eq_ok] at h
      · next kind a hroles =>
        obtain ⟨q, hq, he⟩ := Outcome.map_eq_ok.mp h
        obtain rfl : q = p := Sum.inl.inj he
        obtain ⟨hi, hr, hc, hrule, rfl, ht, hs⟩ := analyzeParameter_eq_ok.mp hq
        obtain rfl := Role.ofAttribute_kind hr
        exact ⟨hname, ⟨a, hroles, hr⟩, hi, hc, hrule, ht, hs⟩
      · simp [broken] at h
  · intro h
    obtain ⟨a, hroles, hr⟩ := h.role
    have hp := analyzeParameter_eq_ok.mpr
      ⟨h.implTrait, hr, h.classified, h.rule, rfl, h.type, h.span⟩
    unfold analyzeInput
    simp only [h.name, hroles]
    rw [hp]
    rfl

theorem analyzeInput_eq_callback {encoding : Encoding} {before : List ParameterDescriptor}
    {isLast : Bool} {input : TypedInput} {c : CallbackDescriptor} :
    analyzeInput encoding before isLast input = .ok (.inr c) ↔
      ReadsCallback input c ∧ isLast = true := by
  constructor
  · intro h
    unfold analyzeInput at h
    split at h
    · simp [broken] at h
    · next name hname =>
      split at h
      · cases h
      · next hroles =>
        obtain ⟨q, hq, he⟩ := Outcome.map_eq_ok.mp h
        obtain rfl : q = c := Sum.inr.inj he
        obtain ⟨hb, ho, hl, rfl⟩ := analyzeCallback_eq_ok.mp hq
        exact ⟨⟨hname, hroles, hb, ho⟩, hl⟩
      · simp [Outcome.map_eq_ok] at h
      · simp [broken] at h
  · rintro ⟨h, hl⟩
    have hc := analyzeCallback_eq_ok.mpr ⟨h.item, h.owned, hl, rfl⟩
    unfold analyzeInput
    simp only [h.name, h.role]
    rw [hc]
    rfl

/-! ### The inputs, one after the other -/

/-- Inputs read after the parameters in `before`: each is a parameter, and the last one may be the
callback instead. -/
inductive ReadsInputs (encoding : Encoding) :
    List ParameterDescriptor → List TypedInput → List ParameterDescriptor →
      Option CallbackDescriptor → Prop
  | done (before : List ParameterDescriptor) : ReadsInputs encoding before [] [] none
  | callback (before : List ParameterDescriptor) {input : TypedInput} {c : CallbackDescriptor}
      (hc : ReadsCallback input c) : ReadsInputs encoding before [input] [] (some c)
  | parameter {before ps : List ParameterDescriptor} {input : TypedInput}
      {rest : List TypedInput} {p : ParameterDescriptor} {c : Option CallbackDescriptor}
      (hp : ReadsParameter encoding before input p)
      (hrest : ReadsInputs encoding (before ++ [p]) rest ps c) :
      ReadsInputs encoding before (input :: rest) (p :: ps) c

theorem analyzeInputs_of_reads {encoding : Encoding} {before ps : List ParameterDescriptor}
    {inputs : List TypedInput} {c : Option CallbackDescriptor}
    (h : ReadsInputs encoding before inputs ps c) :
    analyzeInputs encoding before inputs = .ok (before ++ ps, c) := by
  induction h with
  | done before => rw [analyzeInputs, List.append_nil]
  | callback before hc =>
    rw [analyzeInputs, List.isEmpty_nil, analyzeInput_eq_callback.mpr ⟨hc, rfl⟩, List.append_nil]
  | parameter hp _ ih =>
    rw [analyzeInputs, analyzeInput_eq_parameter.mpr hp]
    simpa using ih

theorem reads_of_analyzeInputs {encoding : Encoding} {before all : List ParameterDescriptor}
    {inputs : List TypedInput} {c : Option CallbackDescriptor}
    (h : analyzeInputs encoding before inputs = .ok (all, c)) :
    ∃ ps, all = before ++ ps ∧ ReadsInputs encoding before inputs ps c := by
  induction inputs generalizing before with
  | nil =>
    obtain ⟨rfl, rfl⟩ : before = all ∧ none = c := by simpa [analyzeInputs] using h
    exact ⟨[], by simp, .done _⟩
  | cons input rest ih =>
    rw [analyzeInputs] at h
    split at h
    · cases h
    · next p hp =>
      obtain ⟨ps, rfl, hps⟩ := ih h
      exact ⟨p :: ps, by simp, .parameter (analyzeInput_eq_parameter.mp hp) hps⟩
    · next cb hcb =>
      obtain ⟨hread, hlast⟩ := analyzeInput_eq_callback.mp hcb
      obtain ⟨rfl, rfl⟩ : before = all ∧ some cb = c := by simpa using h
      obtain rfl : rest = [] := by simpa using hlast
      exact ⟨[], by simp, .callback _ hread⟩

/-- The analysis of inputs, as a derivation. -/
theorem analyzeInputs_eq_ok {encoding : Encoding} {ps : List ParameterDescriptor}
    {inputs : List TypedInput} {c : Option CallbackDescriptor} :
    analyzeInputs encoding [] inputs = .ok (ps, c) ↔ ReadsInputs encoding [] inputs ps c := by
  constructor
  · intro h
    obtain ⟨qs, rfl, hq⟩ := reads_of_analyzeInputs h
    exact hq
  · exact analyzeInputs_of_reads

namespace ReadsInputs

variable {encoding : Encoding} {before ps : List ParameterDescriptor} {inputs : List TypedInput}
  {c : Option CallbackDescriptor}

/-- The parameters stand for the inputs in order, the callback for the last input. -/
theorem split (h : ReadsInputs encoding before inputs ps c) :
    ∃ front last, inputs = front ++ last ∧
      List.Forall₂ (fun input p => ∃ earlier, ReadsParameter encoding earlier input p) front ps ∧
      List.Forall₂ ReadsCallback last c.toList := by
  induction h with
  | done => exact ⟨[], [], rfl, .nil, .nil⟩
  | callback before hc => exact ⟨[], _, rfl, .nil, .cons hc .nil⟩
  | parameter hp _ ih =>
    obtain ⟨front, last, rfl, hfront, hlast⟩ := ih
    exact ⟨_ :: front, last, rfl, .cons ⟨_, hp⟩ hfront, hlast⟩

/-- The roles that attributes name are the roles of the parameters. -/
theorem roleKinds_eq (h : ReadsInputs encoding before inputs ps c) :
    (inputs.flatMap fun input => roleKindsOf input.attributes) = roleKinds ps := by
  induction h with
  | done => rfl
  | callback before hc =>
    have hnone := rolesOf_kinds hc.role
    simp [← hnone, roleKinds]
  | parameter hp _ ih =>
    obtain ⟨a, hroles, _⟩ := hp.role
    have hone := rolesOf_kinds hroles
    rw [List.flatMap_cons, ih, ← hone]
    rfl

theorem any_hasRole (h : ReadsInputs encoding before inputs ps c) {kind : RoleKind} :
    inputs.any (hasRole kind) = true ↔ kind ∈ roleKinds ps := by
  rw [← h.roleKinds_eq, List.any_eq_true, List.mem_flatMap]
  exact exists_congr fun input => and_congr_right fun _ => hasRole_iff

theorem reads (h : ReadsInputs encoding before inputs ps c) {p : ParameterDescriptor}
    (hp : p ∈ ps) : ∃ earlier input, input ∈ inputs ∧ ReadsParameter encoding earlier input p := by
  obtain ⟨front, last, rfl, hfront, _⟩ := h.split
  obtain ⟨input, hi, earlier, hread⟩ := Outcome.exists_of_forall₂ hfront hp
  exact ⟨earlier, input, List.mem_append_left _ hi, hread⟩

theorem allowed (h : ReadsInputs encoding before inputs ps c) {p : ParameterDescriptor}
    (hp : p ∈ ps) : p.role.kind.AllowedUnder encoding := by
  obtain ⟨_, _, _, hread⟩ := h.reads hp
  exact (roleRule_eq_none.mp hread.rule).1

theorem url_isString (h : ReadsInputs encoding before inputs ps c) {p : ParameterDescriptor}
    (hp : p ∈ ps) (hk : p.role.kind = .url) : p.type.belongsTo .str := by
  obtain ⟨_, _, _, hread⟩ := h.reads hp
  rw [hread.type]
  exact (roleRule_eq_none.mp hread.rule).2.2 hk

theorem classified (h : ReadsInputs encoding before inputs ps c) {p : ParameterDescriptor}
    (hp : p ∈ ps) : classify p.type p.role.kind = some (p.shape, p.valueType) := by
  obtain ⟨_, _, _, hread⟩ := h.reads hp
  rw [hread.type]
  exact hread.classified

/-- A second parameter of a unique role breaks the rule of the role. -/
theorem count_le_one (h : ReadsInputs encoding before inputs ps c) (kind : RoleKind)
    (hk : kind.isUnique) (hbefore : (roleKinds before).count kind ≤ 1) :
    (roleKinds (before ++ ps)).count kind ≤ 1 := by
  induction h with
  | done | callback => simpa using hbefore
  | @parameter before ps input rest p c hp _ ih =>
    -- the rule of a unique role has looked at all parameters in front of this one
    have hnext : (roleKinds (before ++ [p])).count kind ≤ 1 := by
      by_cases he : p.role.kind = kind
      · have hfree := (roleRule_eq_none.mp hp.rule).2.1 (he ▸ hk)
        rw [he] at hfree
        have hzero := List.count_eq_zero.mpr hfree
        simp only [roleKinds] at hzero
        simp [roleKinds, he, hzero]
      · simpa [roleKinds, List.count_append, he] using hbefore
    simpa using ih hnext

end ReadsInputs

end RestClient
