import RestClient.Proofs.Interface.PathParameters

/-!
# Return types of the ways to deliver

A method waits for a `Result`, returns a `ResponseStream`, or returns a `BoxStream` of results. What
stands in the angle brackets is read alike in all of them: a wrapper of status and headers around
the type that the body becomes, or this type itself. The one exception is a wrapper that has nothing
in it. A method that waits is refused then, and a stream takes the wrapper for the type of its item.

## Main definitions

- `ReturnTypes` — the three types that deliver one type
- `Code.Method.readings` — a method under these three types
- `ReadAlike` — readings that cannot be told apart
- `Code.TypeExpr.Means`, `Code.TypeExpr.IsBareInfo` — what stands in the angle brackets

## Main results

- `Analyzed.readings_eq` — how a method is read under the three types
- `readings_alike_iff` — when the three readings are alike
-/

namespace RestClient

open Code (Span TypeExpr Signature Method)

/-! ### Types in angle brackets -/

namespace Code.TypeExpr

variable {t x : TypeExpr}

/-- A type that ends in a name and has `x` as its first type argument. -/
structure Wraps (t : TypeExpr) (name : String) (x : TypeExpr) : Prop where
  name : t.lastNameIs name = true
  argument : t.argument? 0 = some x

theorem lastNameIs_eq_false {name other : String} (h : t.lastNameIs name = true)
    (hne : name ≠ other) : t.lastNameIs other = false := by
  unfold lastNameIs at h ⊢
  split
  · next names _ hp =>
    rw [hp] at h
    simp only [beq_iff_eq] at h
    simp [h, hne]
  · rfl

/-- What a type in angle brackets means: the type that a body becomes, with status and headers or
without them. -/
inductive Means (x : TypeExpr) : TypeExpr → Bool → Prop
  | plain (name : x.lastNameIs "HttpInfo" = false) : Means x x false
  | info {inner : TypeExpr} (wraps : x.Wraps "HttpInfo" inner) : Means x inner true

/-- A wrapper of status and headers with nothing in it. -/
structure IsBareInfo (x : TypeExpr) : Prop where
  name : x.lastNameIs "HttpInfo" = true
  argument : x.argument? 0 = none

/-- Only a bare wrapper means nothing. -/
theorem exists_means_iff : (∃ y info, x.Means y info) ↔ ¬ x.IsBareInfo := by
  constructor
  · rintro ⟨y, info, hmeans⟩ hbare
    cases hmeans with
    | plain hname => simp [hbare.name] at hname
    | info hwraps =>
      have hargument := hwraps.argument
      rw [hbare.argument] at hargument
      cases hargument
  · intro hbare
    cases hname : x.lastNameIs "HttpInfo" with
    | false => exact ⟨x, false, .plain hname⟩
    | true =>
      cases hargument : x.argument? 0 with
      | none => exact absurd ⟨hname, hargument⟩ hbare
      | some inner => exact ⟨inner, true, .info ⟨hname, hargument⟩⟩

end Code.TypeExpr

/-! ### Shapes -/

/-- Whether the caller is given status and headers. -/
def ReturnShape.withInfo : ReturnShape → Bool
  | void | value _ => false
  | info _ | callback _ => true
  | reactive _ withInfo _ => withInfo

/-- The body of a response becomes a value of this type. Where the body is not looked at, the value
is the unit, which may stand behind references and in parentheses. -/
def ReturnShape.ConvertsTo (r : ReturnShape) (t : TypeExpr) : Prop :=
  match r.responseType? with
  | some u => u = t
  | none => t.belongsTo .unit = true

variable {x y : TypeExpr} {info : Bool}

theorem resultShape_of_means (h : x.Means y info) (unsupported : Except Diagnostic ReturnShape) :
    ∃ r, resultShape unsupported x = .ok r ∧ r.withInfo = info ∧ r.ConvertsTo y := by
  unfold resultShape
  cases h with
  | plain hname =>
    rw [hname, if_neg Bool.false_ne_true]
    by_cases hunit : x.belongsTo .unit = true
    · exact ⟨.void, if_pos hunit, rfl, hunit⟩
    · exact ⟨.value x, if_neg hunit, rfl, rfl⟩
  | info hwraps =>
    rw [hwraps.name, if_pos rfl, hwraps.argument]
    exact ⟨.info y, rfl, rfl, rfl⟩

theorem reactiveShape_of_means (h : x.Means y info) (boxed : Bool) :
    reactiveShape x boxed = .reactive y info boxed := by
  unfold reactiveShape
  cases h with
  | plain hname =>
    rw [hname]
    cases x.argument? 0 <;> rfl
  | info hwraps =>
    rw [hwraps.argument]
    exact if_pos hwraps.name

theorem resultShape_of_isBareInfo (h : x.IsBareInfo) (unsupported : Except Diagnostic ReturnShape) :
    resultShape unsupported x = unsupported := by
  rw [resultShape, if_pos h.name, h.argument]

theorem reactiveShape_of_isBareInfo (h : x.IsBareInfo) (boxed : Bool) :
    reactiveShape x boxed = .reactive x false boxed := by
  rw [reactiveShape, h.argument]

/-! ### The three return types -/

/-- The types that a method returns to deliver `x`: to a caller who waits, and as a stream. -/
structure ReturnTypes (x : TypeExpr) where
  awaited : TypeExpr
  stream : TypeExpr
  boxed : TypeExpr
  result : TypeExpr
  awaited_wraps : awaited.Wraps "Result" x
  stream_wraps : stream.Wraps "ResponseStream" x
  boxed_wraps : boxed.Wraps "BoxStream" result
  result_wraps : result.Wraps "Result" x

/-- The return types of a type in their plain form. -/
def ReturnTypes.of (x : TypeExpr) : ReturnTypes x where
  awaited := appliedType "Result" x
  stream := appliedType "ResponseStream" x
  boxed := appliedType "BoxStream" (appliedType "Result" x)
  result := appliedType "Result" x
  awaited_wraps := ⟨rfl, rfl⟩
  stream_wraps := ⟨rfl, rfl⟩
  boxed_wraps := ⟨rfl, rfl⟩
  result_wraps := ⟨rfl, rfl⟩

/-- The complaint about a return type. -/
def unsupportedReturn (s : Signature) (t : TypeExpr) : Except Diagnostic ReturnShape :=
  broken .unsupportedReturn ((Anchor.on s.nameSpan).withValue t.span)

section

variable {s : Signature} {types : ReturnTypes x}

theorem returnShape_awaited (hout : s.output = some types.awaited) (hasync : s.isAsync = true) :
    returnShape s none = resultShape (unsupportedReturn s types.awaited) x := by
  have hwraps := types.awaited_wraps
  have hstream : types.awaited.lastNameIs "ResponseStream" = false :=
    Code.TypeExpr.lastNameIs_eq_false hwraps.name (by decide)
  have hboxed : types.awaited.lastNameIs "BoxStream" = false :=
    Code.TypeExpr.lastNameIs_eq_false hwraps.name (by decide)
  simp [returnShape, hout, hstream, hboxed, hwraps.name, hwraps.argument, hasync, unsupportedReturn]

theorem returnShape_stream (hout : s.output = some types.stream) (hasync : s.asyncSpan = none) :
    returnShape s none = .ok (reactiveShape x false) := by
  have hwraps := types.stream_wraps
  simp [returnShape, hout, hwraps.name, hwraps.argument, refuseAsync, hasync, Except.map]

theorem returnShape_boxed (hout : s.output = some types.boxed) (hasync : s.asyncSpan = none) :
    returnShape s none = .ok (reactiveShape x true) := by
  have hwraps := types.boxed_wraps
  have hstream : types.boxed.lastNameIs "ResponseStream" = false :=
    Code.TypeExpr.lastNameIs_eq_false hwraps.name (by decide)
  have hitem : ((types.boxed.argument? 0).filter (·.lastNameIs "Result")).bind (·.argument? 0) =
      some x := by
    rw [hwraps.argument, Option.filter, if_pos types.result_wraps.name]
    exact types.result_wraps.argument
  simp only [returnShape, hout, hstream, hwraps.name, hitem, refuseAsync, hasync, Except.map,
    Bool.false_eq_true, if_false, if_true]

end

/-! ### Readings of a method -/

/-- The method under another return type, asynchronous where `place` is given. -/
def Code.Method.returning (m : Method) (place : Option Span) (t : TypeExpr) : Method :=
  { m with signature := { m.signature with asyncSpan := place, output := some t } }

/-- How the result of the method is delivered under another return type. -/
def Code.Method.reading (m : Method) (place : Option Span) (t : TypeExpr) :
    Except Diagnostic ReturnShape :=
  (analyzeMethod (m.returning place t)).map MethodDescriptor.returns

/-- The method under the three return types: it waits, and it returns a stream, and a boxed one. -/
def Code.Method.readings (m : Method) (place : Span) (types : ReturnTypes x) :
    List (Except Diagnostic ReturnShape) :=
  [m.reading (some place) types.awaited, m.reading none types.stream, m.reading none types.boxed]

/-- Both readings are refused, or both say the same about status and headers and about the type that
the body becomes. -/
inductive ReadAlike : Except Diagnostic ReturnShape → Except Diagnostic ReturnShape → Prop
  | refused {e e' : Diagnostic} : ReadAlike (.error e) (.error e')
  | accepted {r r' : ReturnShape} (info : r.withInfo = r'.withInfo)
      (type : ∃ t, r.ConvertsTo t ∧ r'.ConvertsTo t) : ReadAlike (.ok r) (.ok r')

/-- A reading that is accepted: the body becomes a `y`, with status and headers or without them. -/
def ReadsAs (y : TypeExpr) (info : Bool) (reading : Except Diagnostic ReturnShape) : Prop :=
  ∃ r, reading = .ok r ∧ r.withInfo = info ∧ r.ConvertsTo y

theorem ReadsAs.readAlike {reading reading' : Except Diagnostic ReturnShape}
    (h : ReadsAs y info reading) (h' : ReadsAs y info reading') : ReadAlike reading reading' := by
  obtain ⟨r, rfl, rfl, hr⟩ := h
  obtain ⟨r', rfl, hinfo, hr'⟩ := h'
  exact .accepted hinfo.symm ⟨y, hr, hr'⟩

variable {m : Method} {d : MethodDescriptor}

namespace Analyzed

variable (a : Analyzed m d) (hcallback : d.callback = none)
include a hcallback

/-- Of all stages of the analysis, only the last one looks at the return type. -/
theorem reading_eq (place : Option Span) (t : TypeExpr) :
    m.reading place t = returnShape (m.returning place t).signature none := by
  -- the earlier stages give for the method under the new return type what they gave for `m`
  have hreceiver : checkReceiver (m.returning place t).signature = .ok () := a.receiver
  have hgenerics : (m.returning place t).signature.isGeneric = false := a.generics
  have hmarkers : (m.returning place t).attributes.foldlM
      (MethodMarkers.add (m.returning place t).signature.nameSpan) .empty = .ok a.markers :=
    a.collected
  have hverb : a.markers.verb (m.returning place t).signature.nameSpan = .ok a.verb := a.verb_eq
  have htemplate : templateOf (m.returning place t).signature.nameSpan a.verb
      ((m.returning place t).signature.typedInputs.any (hasRole .url)) = .ok a.template :=
    a.template_eq
  have hencoding : a.markers.encoding (m.returning place t).signature.nameSpan = .ok d.encoding :=
    a.encoding_eq
  have hinputs : analyzeInputs d.encoding [] (m.returning place t).signature.typedInputs =
      .ok (d.parameters, none) := by
    rw [← hcallback]
    exact analyzeInputs_eq_ok.mpr a.inputs
  have hurl : urlSource (m.returning place t).signature.nameSpan a.verb a.template d.parameters =
      .ok d.url := a.url
  rw [Code.Method.reading, analyzeMethod]
  simp only [hreceiver, hgenerics, hmarkers, hverb, htemplate, hencoding, hinputs, hurl, bind,
    Except.bind, pure, Except.pure, Bool.false_eq_true, if_false]
  cases returnShape (m.returning place t).signature none <;> rfl

variable (place : Span) (types : ReturnTypes x)

/-- A method that waits is read by what stands in its `Result`, and a stream by its item. -/
theorem readings_eq : m.readings place types =
    [resultShape (unsupportedReturn m.signature types.awaited) x, .ok (reactiveShape x false),
      .ok (reactiveShape x true)] := by
  have hawaited : m.reading (some place) types.awaited =
      resultShape (unsupportedReturn m.signature types.awaited) x :=
    (a.reading_eq hcallback _ _).trans (returnShape_awaited rfl rfl)
  have hstream : m.reading none types.stream = .ok (reactiveShape x false) :=
    (a.reading_eq hcallback _ _).trans (returnShape_stream rfl rfl)
  have hboxed : m.reading none types.boxed = .ok (reactiveShape x true) :=
    (a.reading_eq hcallback _ _).trans (returnShape_boxed rfl rfl)
  rw [Code.Method.readings, hawaited, hstream, hboxed]

/-- Where the type in angle brackets means something, all readings say what it means. -/
theorem readings_of_means (h : x.Means y info) :
    ∀ reading ∈ m.readings place types, ReadsAs y info reading := by
  obtain ⟨r, hr, hinfo, htype⟩ :=
    resultShape_of_means h (unsupportedReturn m.signature types.awaited)
  rw [a.readings_eq hcallback, hr, reactiveShape_of_means h, reactiveShape_of_means h]
  simp only [List.forall_mem_cons, List.not_mem_nil, false_imp_iff, implies_true, and_true]
  exact ⟨⟨r, rfl, hinfo, htype⟩, ⟨_, rfl, rfl, rfl⟩, ⟨_, rfl, rfl, rfl⟩⟩

/-- A bare wrapper is refused where it is waited for, and is the type of the items of a stream. -/
theorem readings_of_isBareInfo (h : x.IsBareInfo) :
    m.readings place types = [unsupportedReturn m.signature types.awaited,
      .ok (.reactive x false false), .ok (.reactive x false true)] := by
  rw [a.readings_eq hcallback, resultShape_of_isBareInfo h, reactiveShape_of_isBareInfo h,
    reactiveShape_of_isBareInfo h]

theorem not_readings_alike (h : x.IsBareInfo) : ¬ (m.readings place types).Pairwise ReadAlike := by
  rw [a.readings_of_isBareInfo hcallback place types h]
  intro halike
  have hfirst := List.rel_of_pairwise_cons halike List.mem_cons_self
  cases hfirst

end Analyzed

/-- The return types of the three ways to deliver a type are read alike unless the type is a bare
wrapper. They are accepted then, and say what the type means. For a bare wrapper the method that
waits is refused, and the streams are accepted. -/
theorem readings_alike_iff (h : analyzeMethod m = .ok d) (hcallback : d.callback = none)
    (place : Span) (types : ReturnTypes x) :
    ((m.readings place types).Pairwise ReadAlike ↔ ¬ x.IsBareInfo) ∧
      (∀ y info, x.Means y info → ∀ reading ∈ m.readings place types, ReadsAs y info reading) ∧
      (x.IsBareInfo → m.readings place types = [unsupportedReturn m.signature types.awaited,
        .ok (.reactive x false false), .ok (.reactive x false true)]) := by
  obtain ⟨a⟩ := analyzeMethod_eq_ok.mp h
  refine ⟨⟨fun halike hbare => a.not_readings_alike hcallback place types hbare halike, ?_⟩,
    fun y info => a.readings_of_means hcallback place types,
    a.readings_of_isBareInfo hcallback place types⟩
  intro hbare
  obtain ⟨y, info, hmeans⟩ := Code.TypeExpr.exists_means_iff.mpr hbare
  have hreads := a.readings_of_means hcallback place types hmeans
  exact List.pairwise_of_forall_mem_list fun r hr r' hr' =>
    (hreads r hr).readAlike (hreads r' hr')

/-- A method that delivers status and headers around a user. -/
theorem readings_alike_iff_user :
    analyzeMethod findComment = .ok foundComment ∧ foundComment.callback = none ∧
      (findComment.readings .nowhere
        (.of (appliedType "HttpInfo" (plainType "User")))).Pairwise ReadAlike := by
  have h : analyzeMethod findComment = .ok foundComment := by rfl
  have hbare : ¬ (appliedType "HttpInfo" (plainType "User")).IsBareInfo := by
    rintro ⟨-, hargument⟩
    cases hargument
  exact ⟨h, rfl, (readings_alike_iff h rfl .nowhere (.of _)).1.mpr hbare⟩

/-- A wrapper with nothing in it is refused by a method that waits and accepted by streams. -/
theorem bare_info_read_apart :
    (plainType "HttpInfo").IsBareInfo ∧
      ¬ (findComment.readings .nowhere (.of (plainType "HttpInfo"))).Pairwise ReadAlike := by
  have hbare : (plainType "HttpInfo").IsBareInfo := ⟨rfl, rfl⟩
  obtain ⟨a⟩ := analyzeMethod_eq_ok.mp (by rfl : analyzeMethod findComment = .ok foundComment)
  exact ⟨hbare, a.not_readings_alike rfl _ _ hbare⟩

end RestClient
