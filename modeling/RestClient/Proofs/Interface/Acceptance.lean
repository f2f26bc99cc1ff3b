import RestClient.Proofs.Interface.Anchors
import RestClient.Proofs.Interface.Methods

/-!
# Which inputs are accepted

The inputs of a method are read one after the other, and each has rules to obey at its place: about
its pattern and its attributes, about its type beside its role, and about the roles of the inputs
before it. All inputs are accepted exactly when every one of them obeys its rules; if not, the
complaint is about the first one that does not, and what stands behind it plays no part.

## Main definitions

- `TypeExpr.IsOwnedCallback` — the types of callbacks
- `TypedInput.Obeys` — the rules for an input at its place
- `IsFirstToBreak` — the first input that does not obey its rules

## Main results

- `analyzeInput_ok_iff` — an input at its place
- `analyzeInputs_eq_error` — where the reading of inputs stops
- `inputs_accepted_exactly` — all inputs of a method
-/

namespace RestClient

open Code (TypeExpr Bound TypedInput Attribute Span)

/-! ### Types of callbacks -/

namespace Code.TypeExpr

/-- The bounds of an `impl` type, of an object, or of an object in a box. -/
def HasBounds (t : TypeExpr) (bounds : List Bound) : Prop :=
  (∃ tokens, t.strip = .implTrait tokens bounds) ∨
    (∃ tokens, t.strip = .traitObject tokens bounds) ∨
    t.isKnown "Box" = true ∧ ∃ tokens, t.argument? 0 = some (.traitObject tokens bounds)

/-- A callback that is passed by value: one of its bounds is the trait of callbacks with the type of
the result. -/
def IsOwnedCallback (t : TypeExpr) : Prop :=
  t.isBorrowed = false ∧ ∃ bounds arguments, t.HasBounds bounds ∧
    .trait "ResponseCallback" arguments ∈ bounds ∧ arguments ≠ []

theorem exists_argumentOfBound?_iff {bounds : List Bound} {name : String} :
    (∃ item, argumentOfBound? bounds name 0 = some item) ↔
      ∃ arguments, .trait name arguments ∈ bounds ∧ arguments ≠ [] := by
  rw [← Option.isSome_iff_exists, argumentOfBound?, List.findSome?_isSome_iff]
  constructor
  · rintro ⟨bound, hbound, hsome⟩
    cases bound with
    | other => cases hsome
    | trait n arguments =>
      dsimp only at hsome
      split at hsome
      · next hname =>
        subst hname
        refine ⟨arguments, hbound, ?_⟩
        rintro rfl
        simp at hsome
      · cases hsome
  · rintro ⟨arguments, hbound, hne⟩
    refine ⟨_, hbound, ?_⟩
    cases arguments with
    | nil => exact absurd rfl hne
    | cons => simp

/-- Only a path is a box. -/
theorem eq_path_of_isKnown_box {t : TypeExpr} (h : t.isKnown "Box" = true) :
    ∃ tokens self names arguments, t.strip = .path tokens self names arguments := by
  have hbox : canonicalName "Box" = "std::boxed::Box" := by decide
  rw [isKnown, hbox, beq_iff_eq, canonical?] at h
  cases ht : t.strip with
  | path tokens self names arguments => exact ⟨tokens, self, names, arguments, rfl⟩
  | tuple tokens elements =>
    rw [ht] at h
    cases elements with
    | nil => exact absurd (Option.some.inj h) (by decide)
    | cons => cases h
  | slice tokens element =>
    rw [ht] at h
    exact absurd (Option.some.inj h) (by decide)
  | array tokens element =>
    rw [ht] at h
    exact absurd (Option.some.inj h) (by decide)
  | _ =>
    rw [ht] at h
    cases h

theorem exists_boundArgument?_iff {t : TypeExpr} {name : String} :
    (∃ item, t.boundArgument? name 0 = some item) ↔
      ∃ bounds arguments, t.HasBounds bounds ∧ .trait name arguments ∈ bounds ∧
        arguments ≠ [] := by
  have hbounds : (∃ item, t.boundArgument? name 0 = some item) ↔
      ∃ bounds, t.HasBounds bounds ∧ ∃ item, argumentOfBound? bounds name 0 = some item := by
    unfold boundArgument?
    constructor
    · rintro ⟨item, h⟩
      split at h
      · next tokens bounds ht => exact ⟨bounds, .inl ⟨tokens, ht⟩, item, h⟩
      · next tokens bounds ht => exact ⟨bounds, .inr (.inl ⟨tokens, ht⟩), item, h⟩
      · split at h
        · next hbox =>
          split at h
          · next tokens bounds hobject =>
            exact ⟨bounds, .inr (.inr ⟨hbox, tokens, hobject⟩), item, h⟩
          · cases h
        · cases h
      · cases h
    · rintro ⟨bounds, ⟨tokens, ht⟩ | ⟨tokens, ht⟩ | ⟨hbox, tokens, hobject⟩, item, h⟩
      · exact ⟨item, by simp only [ht, h]⟩
      · exact ⟨item, by simp only [ht, h]⟩
      · obtain ⟨_, _, _, _, ht⟩ := eq_path_of_isKnown_box hbox
        exact ⟨item, by simp only [ht, hbox, if_true, hobject, h]⟩
  rw [hbounds]
  refine exists_congr fun bounds => ?_
  rw [exists_argumentOfBound?_iff]
  constructor
  · rintro ⟨hb, arguments, hmem, hne⟩
    exact ⟨arguments, hb, hmem, hne⟩
  · rintro ⟨arguments, hb, hmem, hne⟩
    exact ⟨hb, arguments, hmem, hne⟩

end Code.TypeExpr

/-! ### The rules for an input -/

/-- The roles that inputs name. -/
def roleKindsOfInputs (inputs : List TypedInput) : List RoleKind :=
  inputs.flatMap fun input => roleKindsOf input.attributes

/-- The rules for an input of a method between the inputs before it and those behind it. -/
structure Code.TypedInput.Obeys (encoding : Encoding) (before after : List TypedInput)
    (input : TypedInput) : Prop where
  name : input.ident?.isSome = true
  markers : ∀ a ∈ input.attributes, ∀ marker, markerOf a = some marker →
    marker.isMethodLevel = false
  one_role : (roleKindsOf input.attributes).length ≤ 1
  callback : roleKindsOf input.attributes = [] → after = [] ∧ input.type.IsOwnedCallback
  implTrait : roleKindsOf input.attributes ≠ [] → input.type.isImplTrait = false
  role : ∀ a ∈ input.attributes, ∀ kind, markerOf a = some (.role kind) →
    ∃ name role, input.ident? = some name ∧ Role.ofAttribute a kind name = .ok role
  classified : ∀ kind ∈ roleKindsOf input.attributes, (classify input.type kind).isSome = true
  allowed : ∀ kind ∈ roleKindsOf input.attributes, kind.AllowedUnder encoding
  unique : ∀ kind ∈ roleKindsOf input.attributes, kind.isUnique = true →
    kind ∉ roleKindsOfInputs before
  url : .url ∈ roleKindsOf input.attributes → input.type.belongsTo .str = true

/-! ### One input -/

variable {encoding : Encoding} {before after : List TypedInput} {input : TypedInput}
  {ps : List ParameterDescriptor}

/-- An input that is a parameter obeys its rules, whatever stands behind it. -/
theorem ReadsParameter.obeys {p : ParameterDescriptor} (h : ReadsParameter encoding ps input p)
    (hseen : roleKinds ps = roleKindsOfInputs before) (after : List TypedInput) :
    input.Obeys encoding before after := by
  obtain ⟨a, hroles, hrole⟩ := h.role
  obtain ⟨hmarkers, hamong⟩ := rolesOf_eq_ok.mp hroles
  have hkinds : roleKindsOf input.attributes = [p.role.kind] := by
    rw [← rolesAmong_kinds, ← hamong, List.map_singleton]
  obtain ⟨hallowed, hunique, hurl⟩ := roleRule_eq_none.mp h.rule
  rw [hseen] at hunique
  have hone {kind : RoleKind} (hk : kind ∈ roleKindsOf input.attributes) : kind = p.role.kind := by
    rw [hkinds] at hk
    exact List.mem_singleton.mp hk
  constructor
  · rw [h.name, Option.isSome_some]
  · exact hmarkers
  · rw [hkinds, List.length_singleton]
  · simp [hkinds]
  · exact fun _ => h.implTrait
  · intro b hb kind hm
    have hmem := mem_rolesAmong.mpr ⟨hb, hm⟩
    rw [← hamong] at hmem
    obtain ⟨rfl, rfl⟩ := Prod.mk.inj (List.mem_singleton.mp hmem)
    exact ⟨p.name, p.role, h.name, hrole⟩
  · intro kind hk
    rw [hone hk, h.classified, Option.isSome_some]
  · intro kind hk
    exact hone hk ▸ hallowed
  · intro kind hk hu
    rw [hone hk] at hu ⊢
    exact hunique hu
  · intro hk
    exact hurl (hone hk).symm

/-- An input that is the callback obeys its rules in the last place. -/
theorem ReadsCallback.obeys {c : CallbackDescriptor} (h : ReadsCallback input c) :
    input.Obeys encoding before [] := by
  obtain ⟨hmarkers, hamong⟩ := rolesOf_eq_ok.mp h.role
  have hkinds : roleKindsOf input.attributes = [] := by
    rw [← rolesAmong_kinds, ← hamong, List.map_nil]
  have hnone {kind : RoleKind} (hk : kind ∈ roleKindsOf input.attributes) : False := by
    simp [hkinds] at hk
  constructor
  · rw [h.name, Option.isSome_some]
  · exact hmarkers
  · simp [hkinds]
  · exact fun _ => ⟨rfl, h.owned, TypeExpr.exists_boundArgument?_iff.mp ⟨_, h.item⟩⟩
  · exact fun hne => absurd hkinds hne
  · intro a ha kind hm
    have hmem := mem_rolesAmong.mpr ⟨ha, hm⟩
    rw [← hamong] at hmem
    cases hmem
  · exact fun kind hk => (hnone hk).elim
  · exact fun kind hk => (hnone hk).elim
  · exact fun kind hk => (hnone hk).elim
  · exact fun hk => (hnone hk).elim

/-- An input that obeys its rules is a parameter or, in the last place, the callback. -/
theorem Code.TypedInput.Obeys.reads (h : input.Obeys encoding before after)
    (hseen : roleKinds ps = roleKindsOfInputs before) :
    (∃ p, ReadsParameter encoding ps input p) ∨ after = [] ∧ ∃ c, ReadsCallback input c := by
  have hroles : rolesOf input input.attributes = .ok (rolesAmong input.attributes) :=
    rolesOf_eq_ok.mpr ⟨h.markers, rfl⟩
  have hkinds := rolesAmong_kinds input.attributes
  cases hamong : rolesAmong input.attributes with
  | nil =>
    -- only the callback has no role
    right
    rw [hamong] at hroles hkinds
    obtain ⟨hlast, howned, hbounds⟩ := h.callback hkinds.symm
    obtain ⟨item, hitem⟩ := TypeExpr.exists_boundArgument?_iff.mpr hbounds
    obtain ⟨name, hname⟩ := Option.isSome_iff_exists.mp h.name
    exact ⟨hlast, ⟨name, item⟩, hname, hroles, hitem, howned⟩
  | cons found rest =>
    -- there is no second role, and the first one makes the parameter
    left
    obtain ⟨kind, a⟩ := found
    have hrest : rest = [] := by
      have hlength := h.one_role
      rw [← hkinds, hamong] at hlength
      simpa using hlength
    subst hrest
    rw [hamong] at hroles hkinds
    have hk : kind ∈ roleKindsOf input.attributes := by simp [← hkinds]
    have ha : (kind, a) ∈ rolesAmong input.attributes := by simp [hamong]
    obtain ⟨hmem, hmarker⟩ := mem_rolesAmong.mp ha
    obtain ⟨name, role, hname, hrole⟩ := h.role a hmem kind hmarker
    obtain rfl := Role.ofAttribute_kind hrole
    obtain ⟨⟨shape, valueType⟩, hclassified⟩ := Option.isSome_iff_exists.mp (h.classified _ hk)
    refine ⟨⟨name, input.type, role, shape, valueType, input.identSpan⟩, hname,
      ⟨a, hroles, hrole⟩, h.implTrait (List.ne_nil_of_mem hk), hclassified, ?_, rfl, rfl⟩
    refine roleRule_eq_none.mpr ⟨h.allowed _ hk, fun hu => ?_, fun hurl => h.url (hurl ▸ hk)⟩
    rw [hseen]
    exact h.unique _ hk hu

/-- An input is accepted at its place exactly when it obeys its rules. -/
theorem analyzeInput_ok_iff (hseen : roleKinds ps = roleKindsOfInputs before) :
    (∃ r, analyzeInput encoding ps after.isEmpty input = .ok r) ↔
      input.Obeys encoding before after := by
  constructor
  · rintro ⟨p | c, h⟩
    · exact (analyzeInput_eq_parameter.mp h).obeys hseen after
    · obtain ⟨hread, hlast⟩ := analyzeInput_eq_callback.mp h
      rw [List.isEmpty_iff.mp hlast]
      exact hread.obeys
  · intro h
    rcases h.reads hseen with ⟨p, hp⟩ | ⟨rfl, c, hc⟩
    · exact ⟨_, analyzeInput_eq_parameter.mpr hp⟩
    · exact ⟨_, analyzeInput_eq_callback.mpr ⟨hc, rfl⟩⟩

/-! ### All inputs -/

/-- Inputs that are all parameters are read in front of any others. -/
theorem analyzeInputs_append {qs : List ParameterDescriptor}
    (h : ReadsInputs encoding ps before qs none) (rest : List TypedInput) :
    analyzeInputs encoding ps (before ++ rest) = analyzeInputs encoding (ps ++ qs) rest := by
  generalize hc : (none : Option CallbackDescriptor) = c at h
  induction h with
  | done ps => rw [List.nil_append, List.append_nil]
  | callback => cases hc
  | parameter hp _ ih =>
    rw [List.cons_append, analyzeInputs, analyzeInput_eq_parameter.mpr hp]
    simpa using ih hc

/-- The reading of inputs fails with the complaint about the first input that is not accepted. -/
theorem analyzeInputs_eq_error {inputs : List TypedInput} {d : Diagnostic} :
    analyzeInputs encoding ps inputs = .error d ↔
      ∃ before input after qs, inputs = before ++ input :: after ∧
        ReadsInputs encoding ps before qs none ∧
        analyzeInput encoding (ps ++ qs) after.isEmpty input = .error d := by
  constructor
  · intro h
    induction inputs generalizing ps with
    | nil => cases h
    | cons input rest ih =>
      rw [analyzeInputs] at h
      split at h
      · next e he =>
        obtain rfl := Except.error.inj h
        exact ⟨[], input, rest, [], rfl, .done _, by simpa using he⟩
      · next p hp =>
        obtain ⟨before, failing, after, qs, rfl, hbefore, hfailing⟩ := ih h
        exact ⟨input :: before, failing, after, p :: qs, rfl,
          .parameter (analyzeInput_eq_parameter.mp hp) hbefore, by simpa using hfailing⟩
      · cases h
  · rintro ⟨before, input, after, qs, rfl, hbefore, hinput⟩
    rw [analyzeInputs_append hbefore, analyzeInputs, hinput]

theorem roleKindsOfInputs_append (before : List TypedInput) (input : TypedInput) :
    roleKindsOfInputs (before ++ [input]) =
      roleKindsOfInputs before ++ roleKindsOf input.attributes := by
  simp [roleKindsOfInputs]

/-- Inputs that are read obey their rules. Where the callback is not among them, others may stand
behind them. -/
theorem ReadsInputs.obeys {inputs seen : List TypedInput} {qs : List ParameterDescriptor}
    {c : Option CallbackDescriptor} (h : ReadsInputs encoding ps inputs qs c)
    (hseen : roleKinds ps = roleKindsOfInputs seen) (behind : List TypedInput)
    (hbehind : c.isSome = true → behind = []) :
    ∀ before input after, inputs = before ++ input :: after →
      input.Obeys encoding (seen ++ before) (after ++ behind) := by
  induction h generalizing seen with
  | done => simp
  | callback ps hc =>
    intro before input after he
    rw [List.singleton_eq_append_iff] at he
    obtain ⟨rfl, hlast⟩ | ⟨_, hlast⟩ := he
    · obtain ⟨rfl, rfl⟩ := List.cons.inj hlast
      rw [hbehind rfl]
      exact hc.obeys
    · cases hlast
  | @parameter ps qs first rest p c hp hrest ih =>
    intro before input after he
    cases before with
    | nil =>
      obtain ⟨rfl, rfl⟩ := List.cons.inj he
      rw [List.append_nil]
      exact hp.obeys hseen _
    | cons x before =>
      obtain ⟨rfl, rfl⟩ := List.cons.inj he
      -- the parameters read so far have the roles of the inputs they were read from
      have hnext : roleKinds (ps ++ [p]) = roleKindsOfInputs (seen ++ [first]) := by
        obtain ⟨a, hroles, _⟩ := hp.role
        rw [roleKindsOfInputs_append, ← rolesOf_kinds hroles, ← hseen]
        simp [roleKinds]
      simpa using ih hnext hbehind before input after rfl

/-- The first input that does not obey its rules. -/
structure IsFirstToBreak (encoding : Encoding) (before : List TypedInput) (input : TypedInput)
    (after : List TypedInput) : Prop where
  breaks : ¬ input.Obeys encoding before after
  earlier : ∀ front other behind, before = front ++ other :: behind →
    other.Obeys encoding front (behind ++ input :: after)

/-- Inputs are accepted exactly when each of them obeys the rules for its place. If not, what is
complained about is the first one that does not, at a place in it, and inputs behind it have no
influence beyond their number. -/
theorem inputs_accepted_exactly (encoding : Encoding) (inputs : List TypedInput) :
    ((∃ r, analyzeInputs encoding [] inputs = .ok r) ↔
        ∀ before input after, inputs = before ++ input :: after →
          input.Obeys encoding before after) ∧
      ∀ d, analyzeInputs encoding [] inputs = .error d →
        ∃ before input after, inputs = before ++ input :: after ∧
          IsFirstToBreak encoding before input after ∧
          (∃ ps, analyzeInputs encoding [] before = .ok (ps, none) ∧
            analyzeInput encoding ps after.isEmpty input = .error d) ∧
          (∀ P : Span → Prop, input.PlacedIn P → P d.span) ∧
          ∀ after' : List TypedInput, after'.length = after.length →
            analyzeInputs encoding [] (before ++ input :: after') = .error d := by
  have hnil : roleKinds [] = roleKindsOfInputs [] := rfl
  -- where the reading stops, the input breaks a rule, as it would be accepted otherwise
  have hfailing : ∀ d, analyzeInputs encoding [] inputs = .error d →
      ∃ before input after ps, inputs = before ++ input :: after ∧
        ReadsInputs encoding [] before ps none ∧
        analyzeInput encoding ps after.isEmpty input = .error d ∧
        ¬ input.Obeys encoding before after := by
    intro d h
    obtain ⟨before, input, after, ps, rfl, hbefore, hinput⟩ := analyzeInputs_eq_error.mp h
    refine ⟨before, input, after, ps, rfl, hbefore, hinput, fun hobeys => ?_⟩
    have hseen : roleKinds ps = roleKindsOfInputs before := hbefore.roleKinds_eq.symm
    obtain ⟨r, hr⟩ := (analyzeInput_ok_iff hseen).mpr hobeys
    rw [List.nil_append, hr] at hinput
    cases hinput
  refine ⟨⟨?_, ?_⟩, ?_⟩
  · rintro ⟨⟨ps, c⟩, h⟩ before input after he
    have hobeys := (analyzeInputs_eq_ok.mp h).obeys hnil [] (fun _ => rfl) before input after he
    simpa using hobeys
  · intro hall
    cases h : analyzeInputs encoding [] inputs with
    | ok r => exact ⟨r, rfl⟩
    | error d =>
      obtain ⟨before, input, after, _, he, _, _, hbreaks⟩ := hfailing d h
      exact absurd (hall before input after he) hbreaks
  · intro d h
    obtain ⟨before, input, after, ps, rfl, hbefore, hinput, hbreaks⟩ := hfailing d h
    refine ⟨before, input, after, rfl, ⟨hbreaks, ?_⟩, ⟨ps, analyzeInputs_eq_ok.mpr hbefore, hinput⟩,
      ?_, ?_⟩
    · exact hbefore.obeys hnil (input :: after) (by simp)
    · intro P hplaced
      have hends := ends_analyzeInput encoding ps after.isEmpty hplaced
      rw [hinput] at hends
      exact hends
    · intro after' hlength
      -- all that is asked of the inputs behind is whether there are any
      have hlast : after'.isEmpty = after.isEmpty := by
        cases after <;> cases after' <;> simp at hlength ⊢
      refine analyzeInputs_eq_error.mpr ⟨before, input, after', ps, rfl, hbefore, ?_⟩
      rw [List.nil_append, hlast]
      exact hinput

/-- Two inputs with a body, and a third that is not looked at. -/
def twoBodies : List TypedInput :=
  [flaggedInput (some "body") "draft" (plainType "User"),
    flaggedInput (some "body") "letter" (plainType "User"),
    flaggedInput none "done" (plainType "User")]

theorem inputs_accepted_exactly_two_bodies :
    analyzeInputs .none [] twoBodies =
        .error (.declaration .twoBodies ((Anchor.on .nowhere).withMark .nowhere)) ∧
      ∃ before input after, twoBodies = before ++ input :: after ∧
        IsFirstToBreak .none before input after := by
  have h : analyzeInputs .none [] twoBodies =
      .error (.declaration .twoBodies ((Anchor.on .nowhere).withMark .nowhere)) := by rfl
  obtain ⟨before, input, after, he, hfirst, _⟩ := (inputs_accepted_exactly .none twoBodies).2 _ h
  exact ⟨h, before, input, after, he, hfirst⟩

end RestClient
