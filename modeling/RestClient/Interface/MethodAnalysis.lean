import RestClient.Interface.Descriptor
import RestClient.Interface.RoleArguments
import RestClient.Interface.Template

/-!
# Analysis of methods

A method is read in a fixed order: receiver, markers, verb, address, encoding, parameters,
placeholders, result. The first rule that does not hold ends the analysis with a diagnostic.

## Main definitions

- `MethodMarkers` — what the attributes of a method say
- `analyzeInputs` — the parameters and the callback
- `checkPlaceholders` — placeholders against path parameters
- `returnShape` — how the result is delivered
- `analyzeMethod` — the whole
-/

namespace RestClient

open Code (Span Tokens TypeExpr Attribute Signature Method TypedInput Input Parser)

/-- The marker that an attribute is, if it is one. A path of several names is none. -/
def markerOf (a : Attribute) : Option Marker :=
  a.ident?.bind Marker.ofName?

/-- The attributes that are no markers. -/
def foreignAttributes (attributes : List Attribute) : List Attribute :=
  attributes.filter fun a => (markerOf a).isNone

/-- A broken rule about a place. -/
def broken {α : Type} (v : Violation) (anchor : Anchor) : Except Diagnostic α :=
  .error (.declaration v anchor)

/-! ### Markers -/

/-- The marker of a verb with its attribute and the template in it. -/
structure VerbMarker where
  verb : Verb
  span : Span
  template : Option (String × Span)

/-- What the attributes of a method say. -/
structure MethodMarkers where
  verbs : List VerbMarker
  headers : List PlacedHeader
  encodings : List (Encoding × Span)
  annotated : Bool

/-- No attributes. -/
def MethodMarkers.empty : MethodMarkers :=
  ⟨[], [], [], false⟩

/-- The template in the marker of a verb. -/
def verbTemplate (a : Attribute) (verb : Verb) : Except Diagnostic (Option (String × Span)) :=
  let refuse (place : Span) : Except Diagnostic (Option (String × Span)) :=
    broken (.verbNeedsString verb) ((Anchor.on a.span).withValue place)
  match a.item.form with
  | .path => .ok none
  | .list _ trees group =>
    match Parser.runAll stringWithSpan trees group.lastChar with
    | .ok found => .ok (some found)
    | .error _ => refuse (Code.spanOf trees)
  | .nameValue value =>
    match value.form with
    | .string text => .ok (some (text, value.span))
    | _ => refuse value.span

/-- What the attributes of the method called at `name` say, with one more attribute. -/
def MethodMarkers.add (name : Span) (m : MethodMarkers) (a : Attribute) :
    Except Diagnostic MethodMarkers :=
  let m' := { m with annotated := true }
  match markerOf a with
  | none => .ok m
  | some (.verb verb) =>
    (verbTemplate a verb).map fun template =>
      { m' with verbs := m.verbs ++ [⟨verb, a.span, template⟩] }
  | some .headers =>
    (headersOfAttribute a).map fun headers => { m' with headers := m.headers ++ headers }
  | some (.role kind) => broken (.roleOnMethod kind) ((Anchor.on name).withMark a.span)
  | some marker =>
    match a.item.form, marker.encoding? with
    | .path, some encoding => .ok { m' with encodings := m.encodings ++ [(encoding, a.span)] }
    | _, _ => broken (.takesNoArguments marker) (.on a.span)

/-- The one verb of a method. -/
def MethodMarkers.verb (name : Span) (m : MethodMarkers) : Except Diagnostic VerbMarker :=
  if !m.annotated then broken .notAnnotated (.on name)
  else
    match m.verbs with
    | [] => broken .noUrl (.on name)
    | [v] => .ok v
    | first :: second :: _ =>
      broken (.twoVerbs first.verb second.verb) ((Anchor.on name).withMark second.span)

/-- The one encoding of a method. -/
def MethodMarkers.encoding (name : Span) (m : MethodMarkers) : Except Diagnostic Encoding :=
  match m.encodings with
  | [] => .ok .none
  | (first, _) :: rest =>
    match rest.find? fun (other, _) => other != first with
    | some (_, place) => broken .bothEncodings ((Anchor.on name).withMark place)
    | none => .ok first

/-- The template of a verb, unless it is blank. -/
def VerbMarker.usedTemplate (v : VerbMarker) : Option (String × Span) :=
  v.template.filter fun (text, _) => !(Text.trim text).isEmpty

/-- The template of a method: there has to be one exactly where no parameter gives the address. -/
def templateOf (name : Span) (v : VerbMarker) (hasUrlParameter : Bool) :
    Except Diagnostic (Option (String × Span)) :=
  let anchor := (Anchor.on name).withMark v.span
  match v.usedTemplate with
  | none => if hasUrlParameter then .ok none else broken .noUrl anchor
  | some (text, place) =>
    if hasUrlParameter then broken (.urlTwice v.verb) (anchor.withValue place)
    else .ok (some (text, place))

/-! ### Parameters -/

/-- The first input has to be a receiver by shared reference, without a type of its own. -/
def checkReceiver (s : Signature) : Except Diagnostic Unit :=
  let anchor := Anchor.on s.nameSpan
  match s.inputs with
  | [] => broken .receiver anchor
  | (input, _) :: _ =>
    match input with
    | .receiver r =>
      if r.reference && !r.mutable && !r.annotated then .ok ()
      else broken .receiver (anchor.withValue input.span)
    | .typed _ => broken .receiver (anchor.withValue input.span)

/-- The roles among the attributes of a parameter. -/
def rolesOf (input : TypedInput) :
    List Attribute → Except Diagnostic (List (RoleKind × Attribute))
  | [] => .ok []
  | a :: rest =>
    match markerOf a with
    | none => rolesOf input rest
    | some (.role kind) => (rolesOf input rest).map ((kind, a) :: ·)
    | some marker =>
      broken (.methodMarkerOnParameter marker) ((Anchor.on input.span).withMark a.span)

/-- The rule that a role breaks under an encoding, beside the parameters before it. -/
def roleRule (encoding : Encoding) (before : List ParameterDescriptor) (type : TypeExpr) :
    RoleKind → Option Violation
  | .field | .fieldMap => if encoding = .formUrlEncoded then none else some .fieldOutsideForm
  | .part | .partMap => if encoding = .multipart then none else some .partOutsideMultipart
  | .body =>
    if encoding = .formUrlEncoded then some .bodyInForm
    else if encoding = .multipart then some .bodyInMultipart
    else if before.any fun p => p.role.kind == .body then some .twoBodies
    else none
  | .url =>
    if before.any fun p => p.role.kind == .url then some .twoUrls
    else if type.belongsTo .str then none
    else some .urlNotString
  | _ => none

/-- A parameter without a role: only a callback, passed by value and in the last place, may have
none. -/
def analyzeCallback (input : TypedInput) (name : String) (isLast : Bool) :
    Except Diagnostic CallbackDescriptor :=
  let anchor := Anchor.on input.span
  match input.type.boundArgument? "ResponseCallback" 0 with
  | none => broken .noRole anchor
  | some item =>
    if input.type.isBorrowed then
      broken .borrowedCallback (anchor.withValue input.type.span)
    else if !isLast then broken .callbackNotLast anchor
    else .ok ⟨name, item⟩

/-- A parameter with a role. -/
def analyzeParameter (encoding : Encoding) (before : List ParameterDescriptor)
    (input : TypedInput) (name : String) (kind : RoleKind) (a : Attribute) :
    Except Diagnostic ParameterDescriptor :=
  let anchor := (Anchor.on input.span).withMark a.span
  if input.type.isImplTrait then broken .implTrait (anchor.withValue input.type.span)
  else
    match Role.ofAttribute a kind name with
    | .error d => .error d
    | .ok role =>
      match classify input.type kind with
      | none => broken (.notStringMap kind) (anchor.withValue input.type.span)
      | some (shape, valueType) =>
        match roleRule encoding before input.type kind with
        | some v => broken v anchor
        | none => .ok ⟨name, input.type, role, shape, valueType, input.identSpan⟩

/-- What an input is: a parameter, or the callback. -/
def analyzeInput (encoding : Encoding) (before : List ParameterDescriptor) (isLast : Bool)
    (input : TypedInput) : Except Diagnostic (ParameterDescriptor ⊕ CallbackDescriptor) :=
  match input.ident? with
  | none => broken .parameterPattern (.on (Code.spanOf input.pattern))
  | some name =>
    match rolesOf input input.attributes with
    | .error d => .error d
    | .ok [] => (analyzeCallback input name isLast).map .inr
    | .ok [(kind, a)] => (analyzeParameter encoding before input name kind a).map .inl
    | .ok (_ :: (_, second) :: _) =>
      broken .twoRoles ((Anchor.on input.span).withMark second.span)

/-- The parameters after those in `before`, and the callback. -/
def analyzeInputs (encoding : Encoding) (before : List ParameterDescriptor) :
    List TypedInput → Except Diagnostic (List ParameterDescriptor × Option CallbackDescriptor)
  | [] => .ok (before, none)
  | input :: rest =>
    match analyzeInput encoding before rest.isEmpty input with
    | .error d => .error d
    | .ok (.inl parameter) => analyzeInputs encoding (before ++ [parameter]) rest
    | .ok (.inr callback) => .ok (before, some callback)

/-! ### Placeholders -/

/-- The part of a template from its first question mark on. -/
def queryPart (template : List Char) : List Char :=
  template.dropWhile (· != '?')

/-- The names of the path parameters. -/
def pathNames (parameters : List ParameterDescriptor) : List String :=
  parameters.filterMap fun p =>
    match p.role with
    | .path name _ => some name
    | _ => none

/-- Placeholders and path parameters have to correspond by name, and none may stand in the query
of a template. -/
def checkPlaceholders (template : String) (names : List String) : Except Violation Unit :=
  if !(Template.placeholders (queryPart template.toList)).isEmpty then .error .placeholderInQuery
  else
    let placeholders := (Template.placeholders template.toList).map String.ofList
    match placeholders.find? fun p => !names.contains p with
    | some missing => .error (.missingPath missing)
    | none => if names.length = placeholders.length then .ok () else .error .pathCount

/-- Where the address of a method comes from. -/
def urlSource (name : Span) (v : VerbMarker) (template : Option (String × Span))
    (parameters : List ParameterDescriptor) : Except Diagnostic UrlSource :=
  match template with
  | some (text, place) =>
    match checkPlaceholders text (pathNames parameters) with
    | .error e => broken e ((Anchor.on v.span).withValue place)
    | .ok () => .ok (.template text place)
  | none =>
    match parameters.find? fun p => p.role.kind == .path with
    | some p => broken .pathCount (.on p.span)
    | none =>
      match parameters.find? fun p => p.role.kind == .url with
      | some p => .ok (.parameter p.name)
      | none => broken .noUrl (.on name)

/-! ### Results -/

/-- A method that delivers later may not be asynchronous. -/
def refuseAsync (s : Signature) : Except Diagnostic Unit :=
  match s.asyncSpan with
  | some place => broken .asyncCallback ((Anchor.on s.nameSpan).withValue place)
  | none => .ok ()

/-- A stream of `item`; the item may be a value with status and headers. -/
def reactiveShape (item : TypeExpr) (boxed : Bool) : ReturnShape :=
  match item.argument? 0 with
  | some inner =>
    if item.lastNameIs "HttpInfo" then .reactive inner true boxed
    else .reactive item false boxed
  | none => .reactive item false boxed

/-- The result of a method whose return type is `Result` of `value`. -/
def resultShape (unsupported : Except Diagnostic ReturnShape) (value : TypeExpr) :
    Except Diagnostic ReturnShape :=
  if value.lastNameIs "HttpInfo" then
    match value.argument? 0 with
    | some inner => .ok (.info inner)
    | none => unsupported
  else if value.belongsTo .unit then .ok .void
  else .ok (.value value)

/-- How the result of a method is delivered. -/
def returnShape (s : Signature) (callback : Option CallbackDescriptor) :
    Except Diagnostic ReturnShape :=
  let anchor := Anchor.on s.nameSpan
  match callback, s.output with
  | some c, output =>
    match output.filter fun t => !t.belongsTo .unit with
    | some t => broken .callbackReturns (anchor.withValue t.span)
    | none => (refuseAsync s).map fun _ => .callback c.item
  | none, none => broken .unsupportedReturn anchor
  | none, some t =>
    let unsupported : Except Diagnostic ReturnShape :=
      broken .unsupportedReturn (anchor.withValue t.span)
    if t.lastNameIs "ResponseStream" then
      match t.argument? 0 with
      | some item => (refuseAsync s).map fun _ => reactiveShape item false
      | none => unsupported
    else if t.lastNameIs "BoxStream" then
      match ((t.argument? 0).filter (·.lastNameIs "Result")).bind (·.argument? 0) with
      | some item => (refuseAsync s).map fun _ => reactiveShape item true
      | none => unsupported
    else if t.lastNameIs "Result" then
      match t.argument? 0 with
      | none => unsupported
      | some value =>
        if s.isAsync then resultShape unsupported value
        else broken .resultNotAsync anchor
    else unsupported

/-! ### Methods -/

/-- An input without the markers among its attributes; a receiver stays as it is. -/
def cleanInput : Input → Input
  | .typed p => .typed { p with attributes := foreignAttributes p.attributes }
  | .receiver r => .receiver r

/-- A signature without the markers of its parameters. -/
def cleanSignature (s : Signature) : Signature :=
  { s with inputs := s.inputs.map fun (i, comma) => (cleanInput i, comma) }

/-- Whether a parameter has a role. -/
def hasRole (kind : RoleKind) (input : TypedInput) : Bool :=
  input.attributes.any fun a => markerOf a == some (.role kind)

/-- The descriptor of a method, or the first diagnostic. -/
def analyzeMethod (method : Method) : Except Diagnostic MethodDescriptor := do
  let s := method.signature
  checkReceiver s
  if s.isGeneric then
    broken .genericMethod ((Anchor.on s.nameSpan).withMark (Code.spanOf s.generics))
  let markers ← method.attributes.foldlM (MethodMarkers.add s.nameSpan) .empty
  let verb ← markers.verb s.nameSpan
  let template ← templateOf s.nameSpan verb (s.typedInputs.any (hasRole .url))
  let encoding ← markers.encoding s.nameSpan
  let (parameters, callback) ← analyzeInputs encoding [] s.typedInputs
  let url ← urlSource s.nameSpan verb template parameters
  let returns ← returnShape s callback
  return ⟨cleanSignature s, foreignAttributes method.attributes, verb.verb, url, encoding,
    markers.headers, parameters, returns, callback⟩

end RestClient
