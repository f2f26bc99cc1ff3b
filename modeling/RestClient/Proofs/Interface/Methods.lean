import RestClient.Proofs.Interface.Inputs
import RestClient.Proofs.Text.Trim

/-!
# Analyzed methods

An analysis that ends well has passed every stage, and its descriptor says again what the stages
have found out: the one verb and the encoding of the attributes, where the address comes from, the
parameters in their order, and how the result is delivered.

## Main definitions

- `Analyzed` — the stages of an analysis that ends well
- `UrlSource.Fits` — where an address comes from, beside the parameters
- `MethodDescriptor.Describes` — what a descriptor says about its method
-/

namespace RestClient

open Code (Span TypeExpr TypedInput Attribute Signature Method)

/-! ### The address -/

theorem templateOf_eq_ok {name : Span} {v : VerbMarker} {hasUrl : Bool}
    {template : Option (String × Span)} :
    templateOf name v hasUrl = .ok template ↔
      v.usedTemplate = template ∧ template.isNone = hasUrl := by
  unfold templateOf
  cases hv : v.usedTemplate with
  | none => cases hasUrl <;> cases template <;> simp [broken]
  | some used =>
    cases hasUrl with
    | true => cases template <;> simp [broken]
    | false =>
      simp only [Bool.false_eq_true, if_false, Except.ok.injEq]
      constructor
      · rintro rfl
        exact ⟨rfl, rfl⟩
      · rintro ⟨rfl, _⟩
        rfl

/-- The template that is used is not blank. -/
theorem VerbMarker.not_blank_of_usedTemplate {v : VerbMarker} {text : String} {place : Span}
    (h : v.usedTemplate = some (text, place)) : ∃ c ∈ text.toList, Text.isBlank c = false := by
  obtain ⟨_, hne⟩ := Option.filter_eq_some_iff.mp h
  by_contra hn
  have hblank : ∀ c ∈ text.toList, Text.isBlank c = true := by
    intro c hc
    by_contra hb
    exact hn ⟨c, hc, by simpa using hb⟩
  simp [Text.trim_isEmpty_iff.mpr hblank] at hne

theorem find_kind_eq_none {ps : List ParameterDescriptor} {kind : RoleKind} :
    (ps.find? fun p => p.role.kind == kind) = none ↔ kind ∉ roleKinds ps := by
  simp [roleKinds]

theorem urlSource_eq_ok {name : Span} {v : VerbMarker} {template : Option (String × Span)}
    {ps : List ParameterDescriptor} {url : UrlSource} :
    urlSource name v template ps = .ok url ↔
      match template with
      | some (text, place) =>
        checkPlaceholders text (pathNames ps) = .ok () ∧ url = .template text place
      | none =>
        .path ∉ roleKinds ps ∧
          ∃ p, (ps.find? fun p => p.role.kind == .url) = some p ∧ url = .parameter p.name := by
  unfold urlSource
  cases template with
  | some used =>
    obtain ⟨text, place⟩ := used
    dsimp only
    cases hc : checkPlaceholders text (pathNames ps) with
    | error e => simp [broken]
    | ok u =>
      cases u
      simp [eq_comm]
  | none =>
    cases hp : ps.find? fun p => p.role.kind == .path with
    | some p =>
      have hmem : ¬ RoleKind.path ∉ roleKinds ps := by
        rw [← find_kind_eq_none, hp]
        simp
      simp [broken, hmem]
    | none =>
      have hmem := find_kind_eq_none.mp hp
      cases hu : ps.find? fun p => p.role.kind == .url with
      | none => simp [broken]
      | some p => simp [hmem, eq_comm]

theorem pathCount_message_ne : Violation.pathCount.message ≠ Violation.noUrl.message := by
  intro heq
  have heq : "The number of expressions in the url does not match with the number of @Path" =
    "Url not found" := heq
  simp at heq

/-- No complaint about placeholders is one about a missing address. -/
theorem message_ne_of_checkPlaceholders {text : String} {names : List String} {e : Violation}
    (h : checkPlaceholders text names = .error e) : e.message ≠ Violation.noUrl.message := by
  unfold checkPlaceholders at h
  split at h
  · obtain rfl := Except.error.inj h
    intro heq
    have heq :
        "URL query string must not have replace block. For dynamic query parameters use @Query" =
          "Url not found" := heq
    simp at heq
  · dsimp only at h
    split at h
    · next missing _ =>
      obtain rfl := Except.error.inj h
      intro heq
      have heq : "@Path for \x7b" ++ missing ++ "\x7d not found" = "Url not found" := heq
      have hhead := congrArg (fun s => s.toList.head?) heq
      simp at hhead
    · split at h
      · cases h
      · obtain rfl := Except.error.inj h
        exact pathCount_message_ne

/-- Where there is no template, the parameter that gives the address is there. -/
theorem urlSource_ne_noUrl {name : Span} {v : VerbMarker} {template : Option (String × Span)}
    {ps : List ParameterDescriptor} (h : template = none → .url ∈ roleKinds ps) (anchor : Anchor) :
    urlSource name v template ps ≠ broken .noUrl anchor := by
  intro heq
  unfold urlSource at heq
  cases template with
  | some used =>
    obtain ⟨text, place⟩ := used
    dsimp only at heq
    split at heq
    · next e he =>
      have hd := Except.error.inj heq
      exact message_ne_of_checkPlaceholders he (congrArg Diagnostic.message hd)
    · cases heq
  | none =>
    dsimp only at heq
    split at heq
    · have hd := Except.error.inj heq
      exact pathCount_message_ne (congrArg Diagnostic.message hd)
    · split at heq
      · cases heq
      · next hu => exact find_kind_eq_none.mp hu (h rfl)

/-! ### The result -/

/-- The results that a caller waits for. -/
def ReturnShape.isAwaited : ReturnShape → Bool
  | void | value _ | info _ => true
  | callback _ | reactive .. => false

theorem refuseAsync_eq_ok {s : Signature} {u : Unit} (h : refuseAsync s = .ok u) :
    s.isAsync = false := by
  unfold refuseAsync at h
  split at h
  · cases h
  · next hs => rw [Signature.isAsync, hs, Option.isSome_none]

theorem reactiveShape_eq (item : TypeExpr) (boxed : Bool) :
    ∃ t withInfo, reactiveShape item boxed = .reactive t withInfo boxed := by
  unfold reactiveShape
  split
  · split
    · exact ⟨_, _, rfl⟩
    · exact ⟨_, _, rfl⟩
  · exact ⟨_, _, rfl⟩

theorem isAwaited_of_resultShape {d : Diagnostic} {value : TypeExpr} {r : ReturnShape}
    (h : resultShape (.error d) value = .ok r) : r.isAwaited = true := by
  unfold resultShape at h
  split at h
  · split at h
    · obtain rfl := Except.ok.inj h
      rfl
    · cases h
  · split at h
    · obtain rfl := Except.ok.inj h
      rfl
    · obtain rfl := Except.ok.inj h
      rfl

/-- Without a callback the result is delivered to a caller who waits, or as a stream. -/
theorem returnShape_none {s : Signature} {r : ReturnShape} (h : returnShape s none = .ok r) :
    (s.isAsync = true ∧ r.isAwaited = true) ∨
      (s.isAsync = false ∧ ∃ t withInfo boxed, r = .reactive t withInfo boxed) := by
  unfold returnShape at h
  cases hout : s.output with
  | none => simp [hout, broken] at h
  | some t =>
    simp only [hout] at h
    split at h
    · split at h
      · obtain ⟨u, hu, rfl⟩ := Outcome.map_eq_ok.mp h
        obtain ⟨t, withInfo, he⟩ := reactiveShape_eq _ false
        exact .inr ⟨refuseAsync_eq_ok hu, t, withInfo, false, he⟩
      · cases h
    · split at h
      · split at h
        · obtain ⟨u, hu, rfl⟩ := Outcome.map_eq_ok.mp h
          obtain ⟨t, withInfo, he⟩ := reactiveShape_eq _ true
          exact .inr ⟨refuseAsync_eq_ok hu, t, withInfo, true, he⟩
        · cases h
      · split at h
        · split at h
          · cases h
          · split at h
            · next hs => exact .inl ⟨hs, isAwaited_of_resultShape h⟩
            · cases h
        · cases h

theorem returnShape_some {s : Signature} {c : CallbackDescriptor} {r : ReturnShape}
    (h : returnShape s (some c) = .ok r) : r = .callback c.item ∧ s.isAsync = false := by
  unfold returnShape at h
  dsimp only at h
  split at h
  · cases h
  · obtain ⟨u, hu, rfl⟩ := Outcome.map_eq_ok.mp h
    exact ⟨rfl, refuseAsync_eq_ok hu⟩

theorem returnShape_callback {s : Signature} {callback : Option CallbackDescriptor}
    {r : ReturnShape} (h : returnShape s callback = .ok r) (item : TypeExpr) :
    r = .callback item ↔ ∃ name, callback = some ⟨name, item⟩ := by
  cases callback with
  | none =>
    rcases returnShape_none h with ⟨_, hr⟩ | ⟨_, t, withInfo, boxed, rfl⟩
    · cases r <;> simp [ReturnShape.isAwaited] at hr ⊢
    · simp
  | some c =>
    obtain ⟨rfl, _⟩ := returnShape_some h
    constructor
    · intro he
      obtain rfl : c.item = item := ReturnShape.callback.inj he
      exact ⟨c.name, rfl⟩
    · rintro ⟨name, he⟩
      obtain rfl : c = ⟨name, item⟩ := Option.some.inj he
      rfl

theorem returnShape_async {s : Signature} {callback : Option CallbackDescriptor}
    {r : ReturnShape} (h : returnShape s callback = .ok r) : s.isAsync = r.isAwaited := by
  cases callback with
  | none =>
    rcases returnShape_none h with ⟨hs, hr⟩ | ⟨hs, t, withInfo, boxed, rfl⟩
    · rw [hs, hr]
    · exact hs
  | some c =>
    obtain ⟨rfl, hs⟩ := returnShape_some h
    exact hs

/-! ### The stages -/

/-- The stages that an analysis passes on the way to a descriptor. -/
structure Analyzed (method : Method) (d : MethodDescriptor) where
  markers : MethodMarkers
  verb : VerbMarker
  template : Option (String × Span)
  receiver : checkReceiver method.signature = .ok ()
  generics : method.signature.isGeneric = false
  collected : method.attributes.foldlM (MethodMarkers.add method.signature.nameSpan) .empty =
    .ok markers
  verb_eq : markers.verb method.signature.nameSpan = .ok verb
  template_eq : templateOf method.signature.nameSpan verb
    (method.signature.typedInputs.any (hasRole .url)) = .ok template
  encoding_eq : markers.encoding method.signature.nameSpan = .ok d.encoding
  inputs : ReadsInputs d.encoding [] method.signature.typedInputs d.parameters d.callback
  url : urlSource method.signature.nameSpan verb template d.parameters = .ok d.url
  returns : returnShape method.signature d.callback = .ok d.returns
  signature_eq : d.signature = cleanSignature method.signature
  attributes_eq : d.attributes = foreignAttributes method.attributes
  verb_is : d.verb = verb.verb
  headers_eq : d.headers = markers.headers

theorem analyzeMethod_eq_ok {method : Method} {d : MethodDescriptor} :
    analyzeMethod method = .ok d ↔ Nonempty (Analyzed method d) := by
  constructor
  · intro h
    unfold analyzeMethod at h
    obtain ⟨u, hreceiver, h⟩ := Outcome.bind_eq_ok.mp h
    cases hgen : method.signature.isGeneric with
    | true => simp [hgen, broken, bind, Except.bind] at h
    | false =>
      simp only [hgen, Bool.false_eq_true, if_false] at h
      obtain ⟨markers, hmarkers, h⟩ := Outcome.bind_eq_ok.mp h
      obtain ⟨verb, hverb, h⟩ := Outcome.bind_eq_ok.mp h
      obtain ⟨template, htemplate, h⟩ := Outcome.bind_eq_ok.mp h
      obtain ⟨encoding, hencoding, h⟩ := Outcome.bind_eq_ok.mp h
      obtain ⟨⟨parameters, callback⟩, hinputs, h⟩ := Outcome.bind_eq_ok.mp h
      obtain ⟨url, hurl, h⟩ := Outcome.bind_eq_ok.mp h
      obtain ⟨returns, hreturns, h⟩ := Outcome.bind_eq_ok.mp h
      obtain rfl := Except.ok.inj h
      exact ⟨⟨markers, verb, template, hreceiver, hgen, hmarkers, hverb, htemplate, hencoding,
        analyzeInputs_eq_ok.mp hinputs, hurl, hreturns, rfl, rfl, rfl, rfl⟩⟩
  · rintro ⟨a⟩
    unfold analyzeMethod
    simp only [a.receiver, a.generics, a.collected, a.verb_eq, a.template_eq, a.encoding_eq,
      analyzeInputs_eq_ok.mpr a.inputs, a.url, a.returns, bind, Except.bind, pure, Except.pure,
      Bool.false_eq_true, if_false]
    rw [← a.signature_eq, ← a.attributes_eq, ← a.verb_is, ← a.headers_eq]

/-! ### What a descriptor says -/

/-- An address beside the parameters: a template is not blank and no parameter gives the address,
or the one parameter that gives it is a string and no parameter belongs to a path. -/
def UrlSource.Fits (ps : List ParameterDescriptor) : UrlSource → Prop
  | template text _ => (∃ c ∈ text.toList, Text.isBlank c = false) ∧ .url ∉ roleKinds ps
  | parameter name =>
    (∃ p, (ps.filter fun p => p.role.kind == .url) = [p] ∧ p.name = name ∧
      p.type.belongsTo .str = true) ∧ .path ∉ roleKinds ps

/-- What a descriptor says about the method that it was made of. -/
structure MethodDescriptor.Describes (d : MethodDescriptor) (method : Method) : Prop where
  verb : verbsOf method.attributes = [d.verb]
  encoding : AgreeOn (encodingsOf method.attributes) d.encoding
  url : d.url.Fits d.parameters
  callback : ∀ item, d.returns = .callback item ↔ ∃ name, d.callback = some ⟨name, item⟩
  inputs : ∃ front last, method.signature.typedInputs = front ++ last ∧
    List.Forall₂ (fun input p => input.ident? = some p.name ∧ input.type = p.type) front
      d.parameters ∧
    List.Forall₂ (fun input c => input.ident? = some c.name ∧
      input.type.boundArgument? "ResponseCallback" 0 = some c.item) last d.callback.toList
  async : method.signature.isAsync = d.returns.isAwaited

theorem filter_kind_eq_singleton {ps : List ParameterDescriptor} {kind : RoleKind}
    {p : ParameterDescriptor} (hcount : (roleKinds ps).count kind ≤ 1)
    (hfind : (ps.find? fun p => p.role.kind == kind) = some p) :
    (ps.filter fun p => p.role.kind == kind) = [p] := by
  have hlength : (ps.filter fun p => p.role.kind == kind).length ≤ 1 := by
    rw [← List.countP_eq_length_filter]
    simpa [roleKinds, List.count, List.countP_map, Function.comp_def] using hcount
  have hhead := List.head?_filter (l := ps) (p := fun p => p.role.kind == kind)
  rw [hfind] at hhead
  cases hf : ps.filter fun p => p.role.kind == kind with
  | nil => simp [hf] at hhead
  | cons q rest =>
    rw [hf] at hhead hlength
    obtain rfl : q = p := by simpa using hhead
    obtain rfl : rest = [] := by
      cases rest with
      | nil => rfl
      | cons => simp at hlength
    rfl

namespace Analyzed

variable {method : Method} {d : MethodDescriptor} (a : Analyzed method d)
include a

theorem collectedFrom : CollectedFrom method.attributes .empty a.markers :=
  MethodMarkers.foldlM_add_collected a.collected

theorem verbsOf_eq : verbsOf method.attributes = [d.verb] := by
  have hverbs := a.collectedFrom.verbs
  rw [MethodMarkers.verb_eq_ok a.verb_eq] at hverbs
  simpa [MethodMarkers.empty, a.verb_is] using hverbs.symm

theorem agreeOn : AgreeOn (encodingsOf method.attributes) d.encoding := by
  have hencodings := a.collectedFrom.encodings
  have hagree := MethodMarkers.encoding_eq_ok a.encoding_eq
  rw [hencodings] at hagree
  exact hagree

theorem listsHeaders : ListsHeaders method.attributes d.headers := by
  obtain ⟨headers, hlists, he⟩ := a.collectedFrom.headers
  rw [a.headers_eq, he]
  exact hlists

/-- The parameter that gives the address is there exactly where no template is used. -/
theorem url_mem_iff : .url ∈ roleKinds d.parameters ↔ a.template = none := by
  have htemplate := (templateOf_eq_ok.mp a.template_eq).2
  rw [← a.inputs.any_hasRole, ← htemplate]
  exact Option.isNone_iff_eq_none

theorem url_fits : d.url.Fits d.parameters := by
  have hurl := urlSource_eq_ok.mp a.url
  cases ht : a.template with
  | some used =>
    obtain ⟨text, place⟩ := used
    rw [ht] at hurl
    rw [hurl.2]
    have hused : a.verb.usedTemplate = some (text, place) := by
      rw [(templateOf_eq_ok.mp a.template_eq).1, ht]
    refine ⟨VerbMarker.not_blank_of_usedTemplate hused, ?_⟩
    rw [a.url_mem_iff, ht]
    simp
  | none =>
    rw [ht] at hurl
    obtain ⟨hpath, p, hfind, he⟩ := hurl
    rw [he]
    have hcount := a.inputs.count_le_one .url rfl (by simp [roleKinds])
    have hkind : p.role.kind = .url := by simpa using List.find?_some hfind
    have hstr := a.inputs.url_isString (List.mem_of_find?_eq_some hfind) hkind
    exact ⟨⟨p, filter_kind_eq_singleton hcount hfind, rfl, hstr⟩, hpath⟩

theorem inputs_split : ∃ front last, method.signature.typedInputs = front ++ last ∧
    List.Forall₂ (fun input p => input.ident? = some p.name ∧ input.type = p.type) front
      d.parameters ∧
    List.Forall₂ (fun input c => input.ident? = some c.name ∧
      input.type.boundArgument? "ResponseCallback" 0 = some c.item) last d.callback.toList := by
  obtain ⟨front, last, he, hfront, hlast⟩ := a.inputs.split
  refine ⟨front, last, he, hfront.imp ?_, hlast.imp ?_⟩
  · rintro input p ⟨_, hp⟩
    exact ⟨hp.name, hp.type.symm⟩
  · intro input c hc
    exact ⟨hc.name, hc.item⟩

end Analyzed

/-- A descriptor describes its method, and the complaint that no parameter gives the address is
never made behind the parameters. -/
theorem analyzeMethod_describes (method : Method) :
    (∀ d, analyzeMethod method = .ok d → d.Describes method) ∧
      ∀ verb template encoding ps callback anchor,
        templateOf method.signature.nameSpan verb
            (method.signature.typedInputs.any (hasRole .url)) = .ok template →
          analyzeInputs encoding [] method.signature.typedInputs = .ok (ps, callback) →
            urlSource method.signature.nameSpan verb template ps ≠ broken .noUrl anchor := by
  refine ⟨?_, ?_⟩
  · intro d h
    obtain ⟨a⟩ := analyzeMethod_eq_ok.mp h
    exact ⟨a.verbsOf_eq, a.agreeOn, a.url_fits, returnShape_callback a.returns, a.inputs_split,
      returnShape_async a.returns⟩
  · intro verb template encoding ps callback anchor ht hi
    -- the template and the inputs look for the role of the address in the same attributes
    refine urlSource_ne_noUrl ?_ anchor
    rintro rfl
    have hread := analyzeInputs_eq_ok.mp hi
    rw [← hread.any_hasRole, ← (templateOf_eq_ok.mp ht).2]
    rfl

/-! ### A method with an address, tags and a callback -/

/-- An attribute that is only a name. -/
def flagAttribute (name : String) : Attribute :=
  ⟨⟨⟨false, none, [⟨name, none, false⟩]⟩, .path, []⟩, []⟩

/-- An attribute with one literal header. -/
def headerAttribute (literal : String) : Attribute :=
  ⟨⟨⟨false, none, [⟨"headers", none, false⟩]⟩,
    .list .parenthesis [.literal literal .nowhere] .nowhere, []⟩, []⟩

/-- A type that is a single name. -/
def plainType (name : String) : TypeExpr :=
  .path [.ident name .nowhere] none [name] []

/-- A type with one argument. -/
def appliedType (name : String) (argument : TypeExpr) : TypeExpr :=
  .path ([.ident name .nowhere, .punct '<' false .nowhere] ++ argument.tokens ++
    [.punct '>' false .nowhere]) none [name] [argument]

/-- An input that at most names a role. -/
def flaggedInput (role : Option String) (name : String) (type : TypeExpr) : TypedInput :=
  ⟨(role.map flagAttribute).toList, [.ident name .nowhere], [], type⟩

/-- A method that posts tags to an address and answers to a callback. -/
def announce : Method where
  attributes := [flagAttribute "doc", flagAttribute "post", flagAttribute "form_url_encoded",
    headerAttribute "\"X-Kind: tags\""]
  signature :=
    { lead := [], asyncSpan := none, name := "announce", nameSpan := .nowhere, generics := []
      inputs := [(.receiver ⟨[], true, false, false, []⟩, []),
        (.typed (flaggedInput (some "url") "target" (.reference [] (plainType "str"))), []),
        (.typed (flaggedInput (some "field") "tags" (appliedType "Vec" (plainType "u32"))), []),
        (.typed (flaggedInput none "done"
          (.implTrait [] [.trait "ResponseCallback" [plainType "User"]])), [])]
      variadic := [], parentheses := .nowhere, arrow := [], output := none, whereClause := [] }
  body := none
  ending := []

/-- What is found out about the method. -/
def announced : MethodDescriptor where
  signature := cleanSignature announce.signature
  attributes := [flagAttribute "doc"]
  verb := .post
  url := .parameter "target"
  encoding := .formUrlEncoded
  headers := [⟨⟨"X-Kind", "tags"⟩, .nowhere⟩]
  parameters := [
    ⟨"target", .reference [] (plainType "str"), .url, .single, plainType "str", .nowhere⟩,
    ⟨"tags", appliedType "Vec" (plainType "u32"), .field "tags" false, .repeated, plainType "u32",
      .nowhere⟩]
  returns := .callback (plainType "User")
  callback := some ⟨"done", plainType "User"⟩

theorem analyzeMethod_describes_announce :
    analyzeMethod announce = .ok announced ∧ announced.Describes announce ∧
      templateOf .nowhere ⟨.post, .nowhere, none⟩
          (announce.signature.typedInputs.any (hasRole .url)) = .ok none ∧
      analyzeInputs .formUrlEncoded [] announce.signature.typedInputs =
        .ok (announced.parameters, announced.callback) ∧
      urlSource .nowhere ⟨.post, .nowhere, none⟩ none announced.parameters ≠
        broken .noUrl (.on .nowhere) := by
  have hmethod : analyzeMethod announce = .ok announced := by rfl
  have htemplate : templateOf .nowhere ⟨.post, .nowhere, none⟩
      (announce.signature.typedInputs.any (hasRole .url)) = .ok none := by rfl
  have hinputs : analyzeInputs .formUrlEncoded [] announce.signature.typedInputs =
      .ok (announced.parameters, announced.callback) := by rfl
  exact ⟨hmethod, (analyzeMethod_describes announce).1 _ hmethod, htemplate, hinputs,
    (analyzeMethod_describes announce).2 _ _ _ _ _ _ htemplate hinputs⟩

end RestClient
