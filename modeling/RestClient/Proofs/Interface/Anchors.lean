import RestClient.Proofs.Code.TraitPlaces
import RestClient.Proofs.Code.Layout
import RestClient.Proofs.Interface.Arguments
import RestClient.Proofs.Interface.Traits

/-!
# Where diagnostics point

The analysis of a trait that has been read from a text complains about places of the trait: the
parts of signatures, inputs and attributes that it looks at are at places of the trees that they
were read from, and trees that are laid out have their places in the text. Each step of the analysis
has one lemma, over places of any kind, which says where its complaints point and where the places
are that it hands on.

## Main definitions

- `MethodMarkers.PlacedIn` — where the markers of a method are
- `IsEmptyVerb`, `IsBareWhere` — complaints that point nowhere

## Main results

- `ends_analyzeMethod` — where complaints about a method point
- `diagnostics_point_into_trait` — every diagnostic points into its trait, with exceptions
-/

namespace RestClient

open Code (Span Tokens Attribute Signature Method TypedInput Input TraitDecl TraitItem MetaForm
  Place IsLaidOut spanOf)
open Outcome (Ends)

variable {P : Span → Prop}

/-! ### Markers of methods -/

/-- The diagnostic is about the marker of a verb with nothing in its parentheses, and it points
nowhere. -/
def IsEmptyVerb (a : Attribute) (d : Diagnostic) : Prop :=
  ∃ verb delimiter group, markerOf a = some (.verb verb) ∧
    a.item.form = .list delimiter [] group ∧
    d = .declaration (.verbNeedsString verb) ((Anchor.on a.span).withValue .nowhere)

/-- What attributes say is at places that satisfy `P`. -/
structure MethodMarkers.PlacedIn (P : Span → Prop) (m : MethodMarkers) : Prop where
  verbs : ∀ v ∈ m.verbs, P v.span
  templates : ∀ v ∈ m.verbs, ∀ text place, v.template = some (text, place) → P place
  encodings : ∀ e ∈ m.encodings, P e.2

theorem MethodMarkers.placedIn_empty : MethodMarkers.empty.PlacedIn P :=
  ⟨fun _ h => (nomatch h), fun _ h => (nomatch h), fun _ h => (nomatch h)⟩

theorem ends_verbTemplate {a : Attribute} {verb : Verb} (h : a.PlacedIn P)
    (hmarker : markerOf a = some (.verb verb)) :
    Ends (fun d => P d.span ∨ IsEmptyVerb a d)
      (fun template => ∀ text place, template = some (text, place) → P place)
      (verbTemplate a verb) := by
  have hform := h.form
  unfold verbTemplate
  cases hlist : a.item.form with
  | path => exact fun _ _ h => nomatch h
  | nameValue value =>
    rw [hlist] at hform
    dsimp only
    split
    · intro text place hsome
      obtain ⟨-, rfl⟩ := Prod.mk.inj (Option.some.inj hsome)
      exact hform
    · exact .inl hform
  | list d trees group =>
    rw [hlist] at hform
    have hread := ends_runAll (R := fun r => P r.2) hform meets_stringWithSpan fun _ r hr =>
      placed_in_list hform (.inr hr)
    dsimp only
    cases hrun : Code.Parser.runAll stringWithSpan trees group.lastChar with
    | error fault =>
      cases trees with
      | nil => exact .inr ⟨verb, d, group, hmarker, hlist, rfl⟩
      | cons tree rest => exact .inl (placed_in_list hform (.inr (.all (List.cons_ne_nil _ _))))
    | ok found =>
      rw [hrun] at hread
      intro text place hsome
      rw [Option.some.inj hsome] at hread
      exact hread

theorem MethodMarkers.ends_add {name : Span} {m : MethodMarkers} {a : Attribute}
    (hm : m.PlacedIn P) (h : a.PlacedIn P) :
    Ends (fun d => P d.span ∨ IsEmptyVerb a d) (MethodMarkers.PlacedIn P) (m.add name a) := by
  unfold MethodMarkers.add
  dsimp only
  split
  · exact hm
  · next verb hmarker =>
    refine (ends_verbTemplate h hmarker).map fun template htemplate => ⟨?_, ?_, hm.encodings⟩
    · intro v hv
      rcases List.mem_append.mp hv with hv | hv
      · exact hm.verbs v hv
      · obtain rfl := List.mem_singleton.mp hv
        exact h.span
    · intro v hv
      rcases List.mem_append.mp hv with hv | hv
      · exact hm.templates v hv
      · obtain rfl := List.mem_singleton.mp hv
        exact htemplate
  · have hheaders := (ends_headersOfAttribute h).imp fun d => Or.inl (b := IsEmptyVerb a d)
    exact hheaders.map fun _ _ => ⟨hm.verbs, hm.templates, hm.encodings⟩
  · exact .inl h.span
  · split
    · refine ⟨hm.verbs, hm.templates, fun e he => ?_⟩
      rcases List.mem_append.mp he with he | he
      · exact hm.encodings e he
      · obtain rfl := List.mem_singleton.mp he
        exact h.span
    · exact .inl h.span

/-! ### Signatures -/

theorem ends_verb {name : Span} {m : MethodMarkers} (hname : P name) (hm : m.PlacedIn P) :
    Ends (fun d : Diagnostic => P d.span) (fun v => v ∈ m.verbs) (m.verb name) := by
  unfold MethodMarkers.verb
  split
  · exact hname
  · split
    · exact hname
    · next v hverbs => exact hverbs ▸ List.mem_singleton_self v
    · next first second rest hverbs =>
      exact hm.verbs second (hverbs ▸ List.mem_cons_of_mem _ List.mem_cons_self)

theorem ends_encoding {name : Span} {m : MethodMarkers} (hm : m.PlacedIn P) :
    Ends (fun d : Diagnostic => P d.span) (fun _ => True) (m.encoding name) := by
  unfold MethodMarkers.encoding
  split
  · trivial
  · next first span rest hencodings =>
    split
    · next other place hfound =>
      exact hm.encodings (other, place)
        (hencodings ▸ List.mem_cons_of_mem _ (List.mem_of_find?_eq_some hfound))
    · trivial

theorem ends_templateOf {name : Span} {v : VerbMarker} {hasUrlParameter : Bool} (hv : P v.span)
    (htemplate : ∀ text place, v.template = some (text, place) → P place) :
    Ends (fun d : Diagnostic => P d.span) (fun template => ∀ text place,
      template = some (text, place) → P place) (templateOf name v hasUrlParameter) := by
  unfold templateOf
  dsimp only
  split
  · split
    · exact fun _ _ h => nomatch h
    · exact hv
  · next text place hused =>
    have hplace : P place := htemplate text place (Option.eq_some_of_filter_eq_some hused)
    split
    · exact hplace
    · intro text' place' hsome
      obtain ⟨-, rfl⟩ := Prod.mk.inj (Option.some.inj hsome)
      exact hplace

theorem ends_checkReceiver {s : Signature} (h : s.PlacedIn P) :
    Ends (fun d : Diagnostic => P d.span) (fun _ => True) (checkReceiver s) := by
  unfold checkReceiver
  dsimp only
  split
  · exact h.name
  · next input comma rest hinputs =>
    have hinput : input.PlacedIn P := h.inputs (input, comma) (hinputs ▸ List.mem_cons_self)
    split
    · split
      · trivial
      · exact hinput
    · exact hinput.span

theorem ends_refuseAsync {s : Signature} (h : s.PlacedIn P) :
    Ends (fun d : Diagnostic => P d.span) (fun _ => True) (refuseAsync s) := by
  unfold refuseAsync
  split
  · next place hplace => exact h.async place hplace
  · trivial

theorem ends_returnShape {s : Signature} {callback : Option CallbackDescriptor}
    (h : s.PlacedIn P) :
    Ends (fun d : Diagnostic => P d.span) (fun _ => True) (returnShape s callback) := by
  unfold returnShape
  dsimp only
  split
  · split
    · next t hfilter => exact h.output t (Option.eq_some_of_filter_eq_some hfilter)
    · exact (ends_refuseAsync h).map fun _ _ => trivial
  · exact h.name
  · next t houtput =>
    have ht : P t.span := h.output t houtput
    split
    · split
      · exact (ends_refuseAsync h).map fun _ _ => trivial
      · exact ht
    · split
      · split
        · exact (ends_refuseAsync h).map fun _ _ => trivial
        · exact ht
      · split
        · split
          · exact ht
          · split
            · unfold resultShape
              split
              · split
                · trivial
                · exact ht
              · split
                · trivial
                · trivial
            · exact h.name
        · exact ht

/-! ### Parameters -/

theorem ends_rolesOf (input : TypedInput) {attributes : List Attribute}
    (h : ∀ a ∈ attributes, a.PlacedIn P) :
    Ends (fun d : Diagnostic => P d.span) (fun roles => ∀ r ∈ roles, r.2 ∈ attributes)
      (rolesOf input attributes) := by
  induction attributes with
  | nil => exact fun _ hr => nomatch hr
  | cons a rest ih =>
    have hrest := ih fun b hb => h b (List.mem_cons_of_mem _ hb)
    unfold rolesOf
    split
    · exact hrest.mono (fun _ => id) fun roles hroles r hr => List.mem_cons_of_mem _ (hroles r hr)
    · refine hrest.map fun roles hroles r hr => ?_
      rcases List.mem_cons.mp hr with rfl | hr
      · exact List.mem_cons_self
      · exact List.mem_cons_of_mem _ (hroles r hr)
    · exact (h a List.mem_cons_self).span

theorem ends_analyzeCallback {input : TypedInput} {name : String} {isLast : Bool}
    (h : input.PlacedIn P) :
    Ends (fun d : Diagnostic => P d.span) (fun _ => True) (analyzeCallback input name isLast) := by
  unfold analyzeCallback
  dsimp only
  split
  · exact h.span
  · split
    · exact h.type
    · split
      · exact h.span
      · trivial

theorem ends_analyzeParameter {encoding : Encoding} {before : List ParameterDescriptor}
    {input : TypedInput} {name : String} {kind : RoleKind} {a : Attribute} (h : input.PlacedIn P)
    (ha : a ∈ input.attributes) :
    Ends (fun d : Diagnostic => P d.span) (fun p => P p.span)
      (analyzeParameter encoding before input name kind a) := by
  have hattribute := h.attributes a ha
  have hrole := ends_roleOfAttribute kind name hattribute
  unfold analyzeParameter
  dsimp only
  split
  · exact h.type
  · split
    · next d hd =>
      rw [hd] at hrole
      exact hrole
    · split
      · exact h.type
      · split
        · exact hattribute.span
        · exact h.name

theorem ends_analyzeInput (encoding : Encoding) (before : List ParameterDescriptor) (isLast : Bool)
    {input : TypedInput} (h : input.PlacedIn P) :
    Ends (fun d : Diagnostic => P d.span)
      (fun r => ∀ p, r = Sum.inl p → P p.span) (analyzeInput encoding before isLast input) := by
  have hroles := ends_rolesOf input h.attributes
  unfold analyzeInput
  split
  · exact h.pattern
  · split
    · next d hd =>
      rw [hd] at hroles
      exact hroles
    · exact (ends_analyzeCallback h).map fun _ _ _ hp => nomatch hp
    · next kind a hr =>
      rw [hr] at hroles
      have ha : a ∈ input.attributes := hroles (kind, a) List.mem_cons_self
      refine (ends_analyzeParameter h ha).map fun p hp p' hp' => ?_
      obtain rfl := Sum.inl.inj hp'
      exact hp
    · next first kind second rest hr =>
      rw [hr] at hroles
      exact (h.attributes second
        (hroles (kind, second) (List.mem_cons_of_mem _ List.mem_cons_self))).span

theorem ends_analyzeInputs {encoding : Encoding} {before : List ParameterDescriptor}
    {inputs : List TypedInput} (h : ∀ input ∈ inputs, input.PlacedIn P)
    (hbefore : ∀ p ∈ before, P p.span) :
    Ends (fun d : Diagnostic => P d.span) (fun r => ∀ p ∈ r.1, P p.span)
      (analyzeInputs encoding before inputs) := by
  induction inputs generalizing before with
  | nil => exact hbefore
  | cons input rest ih =>
    have hinput := ends_analyzeInput encoding before rest.isEmpty (h input List.mem_cons_self)
    have hrest : ∀ input ∈ rest, input.PlacedIn P := fun i hi => h i (List.mem_cons_of_mem _ hi)
    unfold analyzeInputs
    split
    · next d hd =>
      rw [hd] at hinput
      exact hinput
    · next p hp =>
      rw [hp] at hinput
      refine ih hrest fun q hq => ?_
      rcases List.mem_append.mp hq with hq | hq
      · exact hbefore q hq
      · rw [List.mem_singleton.mp hq]
        exact hinput p rfl
    · exact hbefore

theorem ends_urlSource {name : Span} {v : VerbMarker} {template : Option (String × Span)}
    {parameters : List ParameterDescriptor} (hname : P name)
    (htemplate : ∀ text place, template = some (text, place) → P place)
    (hparameters : ∀ p ∈ parameters, P p.span) :
    Ends (fun d : Diagnostic => P d.span) (fun _ => True)
      (urlSource name v template parameters) := by
  unfold urlSource
  split
  · next text place =>
    split
    · exact htemplate text place rfl
    · trivial
  · split
    · next p hp => exact hparameters p (List.mem_of_find?_eq_some hp)
    · split
      · trivial
      · exact hname

/-! ### Methods -/

theorem typedInputs_placedIn {s : Signature} (h : s.PlacedIn P) :
    ∀ input ∈ s.typedInputs, input.PlacedIn P := by
  intro input hinput
  obtain ⟨⟨i, comma⟩, hmem, hi⟩ := List.mem_filterMap.mp hinput
  cases i with
  | receiver r => cases hi
  | typed p =>
    obtain rfl := Option.some.inj hi
    exact h.inputs (.typed p, comma) hmem

/-- What is wrong with a method is at a place of it, save for the marker of a verb with nothing in
its parentheses. -/
theorem ends_analyzeMethod {m : Method} (hsignature : m.signature.PlacedIn P)
    (hattributes : ∀ a ∈ m.attributes, a.PlacedIn P) :
    Ends (fun d => P d.span ∨ ∃ a ∈ m.attributes, IsEmptyVerb a d) (fun _ => True)
      (analyzeMethod m) := by
  have hplaced : ∀ {α : Type} {Q : α → Prop} {x : Except Diagnostic α},
      Ends (fun d : Diagnostic => P d.span) Q x →
        Ends (fun d => P d.span ∨ ∃ a ∈ m.attributes, IsEmptyVerb a d) Q x :=
    fun h => h.imp fun _ => .inl
  unfold analyzeMethod
  extract_lets s rest
  have hrest : Ends (fun d => P d.span ∨ ∃ a ∈ m.attributes, IsEmptyVerb a d) (fun _ => True)
      (rest ()) := by
    have hmarkers : Ends (fun d => P d.span ∨ ∃ a ∈ m.attributes, IsEmptyVerb a d)
        (MethodMarkers.PlacedIn P)
        (m.attributes.foldlM (MethodMarkers.add s.nameSpan) .empty) := by
      refine .foldlM MethodMarkers.placedIn_empty fun a ha markers hmarkers => ?_
      exact (MethodMarkers.ends_add hmarkers (hattributes a ha)).imp fun d =>
        .imp_right fun hd => ⟨a, ha, hd⟩
    refine hmarkers.bind fun markers hmarkers => ?_
    refine (hplaced (ends_verb hsignature.name hmarkers)).bind fun verb hverb => ?_
    refine (hplaced (ends_templateOf (hmarkers.verbs verb hverb)
      (hmarkers.templates verb hverb))).bind fun template htemplate => ?_
    refine (hplaced (ends_encoding hmarkers)).bind fun encoding _ => ?_
    refine (hplaced (ends_analyzeInputs (typedInputs_placedIn hsignature)
      (List.forall_mem_nil _))).bind fun r hparameters => ?_
    obtain ⟨parameters, callback⟩ := r
    refine (hplaced (ends_urlSource hsignature.name htemplate hparameters)).bind fun url _ => ?_
    exact (hplaced (ends_returnShape hsignature)).bind fun returns _ => trivial
  refine (hplaced (ends_checkReceiver hsignature)).bind fun _ _ => ?_
  split
  · next hgeneric =>
    have hgenerics : s.generics ≠ [] := by simpa [Signature.isGeneric] using hgeneric
    exact .inl (hsignature.generics hgenerics)
  · exact hrest

/-- A diagnostic about a method that has been read points to the method up to the end of its
signature, or to its body if it is about an attribute there. -/
theorem place_of_analyzeMethod {m : Method} {front inside : Tokens} {d : Diagnostic}
    (hm : m.Covers front inside) (h : analyzeMethod m = .error d) :
    Place front d.span ∨ (∃ a ∈ m.attributes, a.isInner = true ∧ Place inside d.span) ∨
      ∃ a ∈ m.attributes, IsEmptyVerb a d := by
  have hplaced := ends_analyzeMethod (P := fun s => Place front s ∨
    ∃ a ∈ m.attributes, a.isInner = true ∧ Place inside s) (m := m)
    (hm.signature.mono fun _ => .inl) fun a ha => (hm.attributes a ha).mono fun s hs => by
      cases hinner : a.isInner with
      | true =>
        rw [hinner] at hs
        exact .inr ⟨a, ha, hinner, hs⟩
      | false =>
        rw [hinner] at hs
        exact .inl hs
  rw [h] at hplaced
  exact or_assoc.mp hplaced

/-! ### Traits -/

/-- The diagnostic is about the conditions of a trait without generics, and it points nowhere. -/
def IsBareWhere (t : TraitDecl) (d : Diagnostic) : Prop :=
  t.generics = [] ∧ t.hasWhere = true ∧
    d = .declaration .genericTrait ((Anchor.on t.nameSpan).withMark .nowhere)

theorem place_of_mem_traitDiagnostics {t : TraitDecl} {trees : Tokens} {d : Diagnostic}
    (ht : t.PlacedIn trees) (h : d ∈ traitDiagnostics t) :
    Place trees d.span ∨ IsBareWhere t d := by
  unfold traitDiagnostics at h
  rcases List.mem_append.mp h with h | h
  · split at h
    · next hgeneric =>
      obtain rfl := List.mem_singleton.mp h
      by_cases hnil : t.generics = []
      · have hwhere : t.hasWhere = true := by simpa [TraitDecl.isGeneric, hnil] using hgeneric
        exact .inr ⟨hnil, hwhere, by rw [hnil]; rfl⟩
      · exact .inl (ht.generics hnil)
    · cases h
  · split at h
    · cases h
    · next hsome =>
      obtain rfl := List.mem_singleton.mp h
      exact .inl (ht.supertraits fun hnil => hsome (List.isEmpty_iff.mpr hnil))

/-- What is wrong with an item is at a place of it, save for the marker of a verb with nothing in
its parentheses. -/
theorem place_of_complaint? {item : TraitItem} {trees : Tokens} {d : Diagnostic}
    (hitem : item.PlacedIn trees) (h : complaint? item = some d) :
    Place trees d.span ∨ ∃ m, item = .method m ∧ ∃ a ∈ m.attributes, IsEmptyVerb a d := by
  have herror : analyzeItem item = .error d := by
    unfold complaint? at h
    cases hanalyze : analyzeItem item with
    | ok m => rw [hanalyze] at h; cases h
    | error e => rw [hanalyze] at h; rw [Option.some.inj h]
  cases item with
  | other tokens =>
    obtain rfl := Except.error.inj herror
    exact .inl hitem
  | method m =>
    obtain ⟨front, inside, hm, hfront, hinside⟩ := hitem
    have hbody := hm.body
    unfold analyzeItem at herror
    dsimp only at herror
    split at herror
    · next body hsome =>
      obtain rfl := Except.error.inj herror
      rw [hsome] at hbody
      split at hbody
      · cases hbody
      · next hne =>
        rw [Option.some.inj hbody]
        exact .inl ((Place.all fun hnil => hne (List.isEmpty_iff.mpr hnil)).mono hinside)
    · next hnone =>
      rcases place_of_analyzeMethod hm herror with hplace | ⟨a, _, _, hplace⟩ | hempty
      · exact .inl (hplace.mono hfront)
      · -- without a body there are no attributes in it
        rw [hnone] at hbody
        split at hbody
        · next hnil => exact absurd (List.isEmpty_iff.mp hnil) hplace.ne_nil
        · cases hbody
      · exact .inr ⟨m, rfl, hempty⟩

/-- Every diagnostic about a trait points to a piece of its text, one about a method to a piece of
the method up to the end of its signature. There are three exceptions. Conditions without generics
and the marker of a verb with nothing in its parentheses are complained about nowhere. And a
diagnostic about an attribute in the body of a method points there. -/
theorem diagnostics_point_into_trait {text : String} {tokens : Tokens} {t : TraitDecl}
    (htext : Tokens.read? text = some tokens) (hparse : TraitDecl.parse tokens = .ok t) :
    (∀ config ds, InterfaceDescriptor.ofTrait config t = .error (.rejected ds) → ∀ d ∈ ds,
      d.span.IsPieceOf (spanOf tokens) ∨ IsBareWhere t d ∨
        ∃ m, .method m ∈ t.items ∧ ∃ a ∈ m.attributes, IsEmptyVerb a d) ∧
    ∀ m d, .method m ∈ t.items → analyzeMethod m = .error d →
      d.span.IsPieceOf (spanOf m.frontTokens) ∨
        (∃ a ∈ m.attributes, a.isInner = true ∧ ∃ body, m.body = some body ∧
          d.span.IsPieceOf body) ∨
        ∃ a ∈ m.attributes, IsEmptyVerb a d := by
  have hlaid := Code.isLaidOut_of_read? htext
  have ht := TraitDecl.placedIn_of_parse hparse
  obtain ⟨delimiter, inner, span, hgroup, hitems⟩ := ht.items
  refine ⟨fun config ds h d hd => ?_, fun m d hm h => ?_⟩
  · have hds : d ∈ traitDiagnostics t ∨ d ∈ complaints t.items := by
      rcases ofTrait_eq_error h with ⟨-, hillegal⟩ | ⟨-, hrejected⟩
      · cases hillegal
      · rw [GenerationFailure.rejected.inj hrejected] at hd
        exact List.mem_append.mp hd
    rcases hds with hd | hd
    · rcases place_of_mem_traitDiagnostics ht hd with hplace | hbare
      · exact .inl (hplace.isPieceOf hlaid)
      · exact .inr (.inl hbare)
    · obtain ⟨item, hitem, hd⟩ := List.mem_filterMap.mp hd
      rcases place_of_complaint? (hitems item hitem) hd with hplace | ⟨m, rfl, hempty⟩
      · exact .inl ((Place.inside hgroup hplace).isPieceOf hlaid)
      · exact .inr (.inr ⟨m, hitem, hempty⟩)
  · obtain ⟨front, inside, hcovers, hfront, hinside⟩ := hitems (.method m) hm
    have hinner : IsLaidOut inner := hlaid.of_group hgroup
    rcases place_of_analyzeMethod hcovers h with hplace | ⟨a, ha, hisInner, hplace⟩ | hempty
    · rw [hcovers.ends.spanOf_eq]
      exact .inl (hplace.isPieceOf (hinner.of_sublist hfront))
    · refine .inr (.inl ⟨a, ha, hisInner, spanOf inside, ?_,
        hplace.isPieceOf (hinner.of_sublist hinside)⟩)
      rw [hcovers.body, if_neg]
      simpa using hplace.ne_nil
    · exact .inr (.inr hempty)

/-- The place of a trait that is rejected, and the places that are reported. -/
def rejection? (config : ClientConfig) (text : String) : Option (Span × List Span) :=
  (Tokens.read? text).bind fun tokens => (TraitDecl.parse tokens).toOption.bind fun t =>
    match InterfaceDescriptor.ofTrait config t with
    | .error (.rejected ds) => some (spanOf tokens, ds.map Diagnostic.span)
    | _ => none

theorem exists_of_rejection? {config : ClientConfig} {text : String} {whole : Span}
    {places : List Span} (h : rejection? config text = some (whole, places)) :
    ∃ tokens t ds, Tokens.read? text = some tokens ∧ TraitDecl.parse tokens = .ok t ∧
      InterfaceDescriptor.ofTrait config t = .error (.rejected ds) ∧ whole = spanOf tokens ∧
      places = ds.map Diagnostic.span := by
  obtain ⟨tokens, htext, h⟩ := Option.bind_eq_some_iff.mp h
  obtain ⟨t, ht, h⟩ := Option.bind_eq_some_iff.mp h
  have hparse : TraitDecl.parse tokens = .ok t := by
    cases hparse : TraitDecl.parse tokens with
    | error fault => rw [hparse] at ht; cases ht
    | ok t' => rw [hparse] at ht; rw [Option.some.inj ht]
  split at h
  · next ds hds =>
    obtain ⟨hwhole, hplaces⟩ := Prod.mk.inj (Option.some.inj h)
    exact ⟨tokens, t, ds, htext, hparse, hds, hwhole.symm, hplaces.symm⟩
  · cases h

/-- A trait with a supertrait and with a template that is no text: both faults are shown. -/
theorem diagnostics_point_into_trait_sender :
    ∃ tokens t ds, Tokens.read? "trait A: Send { #[get(7)] fn f(&self); }" = some tokens ∧
      TraitDecl.parse tokens = .ok t ∧
      InterfaceDescriptor.ofTrait ⟨"", "Impl", defaultClient, defaultClient, .standalone, .nowhere⟩
        t = .error (.rejected ds) ∧
      ds.length = 2 ∧ ∀ d ∈ ds, d.span.IsPieceOf (spanOf tokens) := by
  have hrejected : rejection? ⟨"", "Impl", defaultClient, defaultClient, .standalone, .nowhere⟩
      "trait A: Send { #[get(7)] fn f(&self); }" =
        some (⟨⟨1, 0⟩, ⟨1, 40⟩⟩, [⟨⟨1, 9⟩, ⟨1, 13⟩⟩, ⟨⟨1, 22⟩, ⟨1, 23⟩⟩]) := by
    decide +kernel
  obtain ⟨tokens, t, ds, htext, hparse, hds, -, hplaces⟩ := exists_of_rejection? hrejected
  refine ⟨tokens, t, ds, htext, hparse, hds, ?_, fun d hd => ?_⟩
  · rw [← List.length_map, ← hplaces]
    rfl
  · have hsomewhere : d.span ≠ .nowhere := by
      have hmem : d.span ∈ ds.map Diagnostic.span := List.mem_map_of_mem hd
      rw [← hplaces] at hmem
      rintro hnowhere
      rw [hnowhere] at hmem
      revert hmem
      decide
    rcases (diagnostics_point_into_trait htext hparse).1 _ ds hds d hd with
      hpiece | ⟨-, -, rfl⟩ | ⟨m, -, a, -, verb, _, _, -, -, rfl⟩
    · exact hpiece
    · exact absurd rfl hsomewhere
    · exact absurd rfl hsomewhere

/-- The trait of this text is rejected with a diagnostic that points to no piece of it. -/
def IsReportedOutside (text : String) : Prop :=
  ∃ config tokens t ds, Tokens.read? text = some tokens ∧ TraitDecl.parse tokens = .ok t ∧
    InterfaceDescriptor.ofTrait config t = .error (.rejected ds) ∧
    ∃ d ∈ ds, ¬ d.span.IsPieceOf (spanOf tokens)

theorem isReportedOutside_of_rejection? {config : ClientConfig} {text : String}
    (h : (rejection? config text).map Prod.snd = some [.nowhere]) : IsReportedOutside text := by
  obtain ⟨r, hr, hplaces⟩ := Option.map_eq_some_iff.mp h
  obtain ⟨tokens, t, ds, hread, hparse, hds, -, hmap⟩ := exists_of_rejection? hr
  rw [hplaces] at hmap
  refine ⟨config, tokens, t, ds, hread, hparse, hds, ?_⟩
  have hmem : Span.nowhere ∈ ds.map Diagnostic.span := hmap ▸ List.mem_singleton_self _
  obtain ⟨d, hd, hspan⟩ := List.mem_map.mp hmem
  exact ⟨d, hd, hspan ▸ Code.Span.not_nowhere_isPieceOf⟩

/-- Conditions without generics, and the marker of a verb with nothing in its parentheses, are
complained about outside of the trait. -/
theorem diagnostic_points_nowhere :
    IsReportedOutside "trait A where (): Send {}" ∧
      IsReportedOutside "trait A { #[get()] fn f(&self); }" := by
  have hrejected : ∀ text ∈ ["trait A where (): Send {}", "trait A { #[get()] fn f(&self); }"],
      (rejection? ⟨"", "Impl", defaultClient, defaultClient, .standalone, .nowhere⟩ text).map
        Prod.snd = some [.nowhere] := by
    decide +kernel
  exact ⟨isReportedOutside_of_rejection? (hrejected _ List.mem_cons_self),
    isReportedOutside_of_rejection? (hrejected _ (List.mem_cons_of_mem _ List.mem_cons_self))⟩

end RestClient
