import RestClient.Client.MethodPlan
import RestClient.Proofs.Client.FreeCode
import RestClient.Proofs.Client.FreshNames

/-!
# Fields that code names

Of the fields for converters, the body of a method names those that its statements mention, and no
other. What else it says is words that are written out, names of parameters and locals, and types as
they were declared; only in the types can there be anything that is not known here.

## Main definitions

- `IsConverterName` — the names of fields for converters
- `writtenWords` — words that code is written with, which are no such names
- `Mention` — a member or a type, as statements mention it
- `MethodBody.mentions` — what a body mentions, from the mentions of its parts

## Main results

- `MethodBody.free_code` — a body that mentions no field is free of it
- `MethodBody.infix_code` — what a body mentions stands in its code
- `MethodBody.names_iff` — a body names the fields that it mentions, and what its types name
-/

namespace RestClient

open Code (TypeExpr PlainCode codeOf stringLiteral)
open Emission

/-! ### Names of fields -/

/-- The names of fields for converters have a common part. -/
def IsConverterName (name : String) : Prop :=
  "_converter".toList <:+: name.toList

instance (name : String) : Decidable (IsConverterName name) :=
  inferInstanceAs (Decidable ("_converter".toList <:+: name.toList))

/-- Words that the code of a method is written with: marks, the other fields of a client, and
what is called or awaited. -/
def writtenWords : List String :=
  [".", ",", "=", ">", "|", "\x7b", "\x7d", "base_url", "http_client", "url", "path", "query",
    "field", "header", "part", "body", "method", "build", "iter", "text", "to_vec", "into_bytes",
    "into_success_body", "into_inner", "await"]

theorem IsConverterName.ne {f word : String} (hf : IsConverterName f)
    (hword : word ∈ writtenWords) : word ≠ f := by
  have hall : ∀ word ∈ writtenWords, ¬ IsConverterName word := by decide +kernel
  rintro rfl
  exact hall _ hword hf

theorem isConverterName_preferredField (u : ConverterUse) : IsConverterName (preferredField u) := by
  rw [IsConverterName, preferredField, String.toList_append]
  exact (List.suffix_append _ _).isInfix

theorem isConverterName_of_comesFrom {u : ConverterUse} {name : String}
    (h : NameSupply.ComesFrom (preferredField u) name) : IsConverterName name := by
  rcases h with rfl | ⟨w, rfl⟩
  · exact isConverterName_preferredField u
  · rw [IsConverterName, toList_decorated]
    exact List.infix_append_of_infix_left (isConverterName_preferredField u)

/-! ### What statements mention -/

/-- A member of something that has a name, or a type, as statements mention it. -/
inductive Mention where
  | member (owner name : String)
  | type (type : TypeExpr)

/-- What is mentioned as code. -/
def Mention.code : Mention → PlainCode
  | member owner name => [owner, ".", name]
  | type t => codeOf t.tokens

/-- A field of the client. -/
def Mention.field (name : String) : Mention :=
  .member "self" name

theorem infix_member_iff {f owner name : String} :
    fieldCode f <:+: (Mention.member owner name).code ↔ owner = "self" ∧ name = f := by
  constructor
  · intro h
    have he := h.eq_of_length rfl
    simp only [fieldCode, Mention.code, List.cons.injEq, true_and, and_true] at he
    exact ⟨he.1.symm, he.2.symm⟩
  · rintro ⟨rfl, rfl⟩
    exact List.infix_refl _

/-- A conversion with a converter mentions its type, and the field that holds the converter. -/
def Conversion.mentions (type : TypeExpr) : Conversion → List Mention
  | string field | body field => [.type type, .field field]
  | text | octets | plainText => []

/-- What an argument of the builder mentions: only values are converted. -/
def BuilderArgument.mentions : BuilderArgument → List Mention
  | value conversion type _ => conversion.mentions type
  | literal _ | key _ | flag _ => []

/-- A call mentions the method of the builder, and what its arguments mention. -/
def BuilderCall.mentions (c : BuilderCall) : List Mention :=
  .member c.builder c.method :: c.arguments.flatMap BuilderArgument.mentions

/-- The call that a statement makes, once or more often. -/
def RequestStatement.made : RequestStatement → BuilderCall
  | call c | ifSome _ _ c | forEach _ _ c | forEntries _ _ _ c => c

/-- A closure mentions the base address, and what its calls mention. -/
def RequestClosure.mentions (c : RequestClosure) : List Mention :=
  .field "base_url" :: c.statements.flatMap fun s => s.made.mentions

/-- What is shared is mentioned where it stands in its field; a clone has a name of its own. -/
def Shared.mentions : Shared → List Mention
  | field f => [.field f]
  | clone _ => []

/-- A body that a converter takes mentions its type and the converter. -/
def BodyExpr.mentions : BodyExpr → List Mention
  | converted type converter _ => .type type :: converter.mentions
  | unit _ | text _ | octets _ => []

/-- A value with status and headers mentions the type of the value, which is written out. -/
def InfoExpr.mentions (e : InfoExpr) : List Mention :=
  .type e.type :: e.value.mentions

/-- What a statement mentions. Behind the name of a request or a response stand written words. -/
def MethodStatement.mentions : MethodStatement → List Mention
  | build _ closure _ => closure.mentions
  | clone _ field => [.field field]
  | send _ transport _ => transport.mentions
  | info _ e => e.mentions
  | unwrap _ | log _ _ | success _ => []

/-- What the end of a block mentions. -/
def BlockEnd.mentions : BlockEnd → List Mention
  | value e => e.value.mentions
  | typed type e => .type type :: e.value.mentions
  | info e => e.mentions
  | unit | named _ => []

/-- What a block mentions, statement by statement. -/
def MethodBlock.mentions (b : MethodBlock) : List Mention :=
  b.statements.flatMap MethodStatement.mentions ++ b.finish.mentions

/-- What a body mentions: that of its blocks, and the type of an outcome that has a name. -/
def MethodBody.mentions : MethodBody → List Mention
  | awaited block => block.mentions
  | spawned detached _ type block _ _ =>
    detached.flatMap MethodStatement.mentions ++ .type type :: block.mentions
  | streamed detached _ block _ => detached.flatMap MethodStatement.mentions ++ block.mentions

/-- Nothing that is mentioned names a field. -/
def Unnamed (f : String) (mentions : List Mention) : Prop :=
  ∀ x ∈ mentions, ¬ fieldCode f <:+: x.code

section Unnamed

variable {f : String} {x : Mention} {mentions more : List Mention}

theorem unnamed_cons :
    Unnamed f (x :: mentions) ↔ ¬ fieldCode f <:+: x.code ∧ Unnamed f mentions := by
  simp [Unnamed]

theorem unnamed_append :
    Unnamed f (mentions ++ more) ↔ Unnamed f mentions ∧ Unnamed f more := by
  simp [Unnamed, or_imp, forall_and]

theorem unnamed_flatMap {α : Type} {l : List α} {g : α → List Mention} :
    Unnamed f (l.flatMap g) ↔ ∀ a ∈ l, Unnamed f (g a) := by
  simp only [Unnamed, List.mem_flatMap]
  exact ⟨fun h a ha x hx => h x ⟨a, ha, hx⟩, fun h x ⟨a, ha, hx⟩ => h a ha x hx⟩

end Unnamed

/-! ### Code that mentions no field -/

section Code

variable {f : String} (hf : IsConverterName f)
include hf

/-- A call, or whatever else is written out behind a dot. -/
theorem free_called (name : String) (more : PlainCode) {code : PlainCode}
    (hcode : code = "." :: name :: more) (hname : name ∈ writtenWords)
    (hmore : "self" ∉ more ∧ "." ∉ more) : Free f code := by
  rw [hcode]
  exact (free_words hmore).dot (hf.ne hname)

theorem free_calledOn (owner name : String) (more : PlainCode) {code : PlainCode}
    (hcode : code = "." :: name :: more) (hname : name ∈ writtenWords)
    (hmore : "self" ∉ more ∧ "." ∉ more) : Free f (owner :: code) := by
  rw [hcode]
  exact (free_words hmore).dotted (hf.ne hname) (hf.ne (by decide)) owner

theorem free_fieldCode {name : String} (h : ¬ fieldCode f <:+: (Mention.field name).code) :
    Free f (fieldCode name) :=
  free_member h (hf.ne (by decide))

theorem free_typeCode {type : TypeExpr} (h : ¬ fieldCode f <:+: (Mention.type type).code) :
    Free f (angles (codeOf type.tokens)) :=
  free_angles h (hf.ne (by decide))

omit hf in
theorem free_textCode {value : PlainCode} (h : FreeBehind f value) : Free f (textCode value) :=
  Free.append (free_words (by decide)) h.parens

omit hf in
/-- Something that is dereferenced, with what follows it in the parentheses. -/
theorem free_dereferenced {shared value : PlainCode} (hshared : FreeBehind f shared)
    (hvalue : FreeBehind f value) :
    Free f (parens (piece "& *" ++ shared ++ [","] ++ value)) := by
  have hassoc : parens (piece "& *" ++ shared ++ [","] ++ value) =
      ["(", "&"] ++ ("*" :: shared) ++ ("," :: value) ++ [")"] := by
    simp [parens, show piece "& *" = ["&", "*"] by rfl]
  rw [hassoc]
  exact (((free_words (by decide)).append (hshared "*" (by decide))).append
    (hvalue "," (by decide))).append (free_words (by decide))

theorem free_convertCode (kind : ConverterKind) {type : TypeExpr} {field value : PlainCode}
    (htype : ¬ fieldCode f <:+: (Mention.type type).code) (hfield : FreeBehind f field)
    (hvalue : FreeBehind f value) : Free f (convertCode kind type field value) := by
  have htrait : Free f (runtime [kind.traitName] ++ piece ": :") := by
    cases kind <;> exact free_words (by decide)
  exact (((htrait.append (free_typeCode hf htype)).append (free_words (by decide))).append
    (free_dereferenced hfield hvalue)).append (free_words (by decide))

theorem Conversion.free_code {conversion : Conversion} {type : TypeExpr} {value : PlainCode}
    (h : Unnamed f (conversion.mentions type)) (hvalue : FreeBehind f value) :
    Free f (conversion.code type value) := by
  cases conversion with
  | text => exact free_textCode hvalue
  | string field =>
    obtain ⟨htype, hfield⟩ := unnamed_cons.mp h
    have hshared := (free_fieldCode hf (unnamed_cons.mp hfield).1).behind
    exact (free_convertCode hf .string htype hshared hvalue).cons (by decide)
  | octets =>
    have hcall : Free f (piece ". to_vec ( )") :=
      free_called hf "to_vec" ["(", ")"] rfl (by decide) (by decide)
    refine Free.append (free_words (by decide)) (free_parens ?_)
    exact Free.append (Free.append (free_words (by decide)) hvalue.parens) hcall
  | plainText => exact Free.append (free_words (by decide)) (free_parens (free_textCode hvalue))
  | body field =>
    obtain ⟨htype, hfield⟩ := unnamed_cons.mp h
    have hshared := (free_fieldCode hf (unnamed_cons.mp hfield).1).behind
    exact free_convertCode hf .requestBody htype hshared hvalue

omit hf in
theorem Operand.freeBehind_code (operand : Operand) : FreeBehind f operand.code := by
  cases operand with
  | held name => exact (free_nil.name (by decide) name).behind
  | reference name => exact freeBehind_name name

theorem BuilderArgument.freeBehind_code {argument : BuilderArgument}
    (h : Unnamed f argument.mentions) : FreeBehind f argument.code := by
  cases argument with
  | literal text => exact freeBehind_name _
  | key name => exact (free_textCode (freeBehind_name name)).behind
  | value conversion type operand =>
    exact (Conversion.free_code hf h operand.freeBehind_code).behind
  | flag truth => exact freeBehind_name _

omit hf in
/-- Arguments that are free behind a word are so with commas between them. -/
theorem freeBehind_intercalate {arguments : List PlainCode}
    (h : ∀ argument ∈ arguments, FreeBehind f argument) :
    FreeBehind f ([","].intercalate arguments) := by
  induction arguments with
  | nil => exact fun word hword => free_nil.cons hword
  | cons first rest ih =>
    obtain ⟨hfirst, hrest⟩ := List.forall_mem_cons.mp h
    cases rest with
    | nil => simpa [List.intercalate] using hfirst
    | cons second rest =>
      have hassoc : [","].intercalate (first :: second :: rest) =
          first ++ "," :: [","].intercalate (second :: rest) := by
        simp [List.intercalate]
      rw [hassoc]
      exact fun word hword => (hfirst word hword).append (ih hrest "," (by decide))

theorem BuilderCall.free_code {c : BuilderCall} (h : Unnamed f c.mentions) : Free f c.code := by
  obtain ⟨hmethod, harguments⟩ := unnamed_cons.mp h
  have hparens : Free f (parens ([","].intercalate (c.arguments.map BuilderArgument.code))) := by
    refine FreeBehind.parens (freeBehind_intercalate fun code hcode => ?_)
    obtain ⟨argument, ha, rfl⟩ := List.mem_map.mp hcode
    exact BuilderArgument.freeBehind_code hf (unnamed_flatMap.mp harguments argument ha)
  have hfallible : Free f (if c.fallible then ["?"] else []) := by
    split <;> exact free_words (by decide)
  exact (((free_member hmethod (hf.ne (by decide))).append hparens).append hfallible).append
    (free_words (by decide))

theorem RequestStatement.free_code {s : RequestStatement} (h : Unnamed f s.made.mentions) :
    Free f s.code := by
  have hcall := BuilderCall.free_code hf h
  have hiter : Free f (piece ". iter ( )") :=
    free_called hf "iter" ["(", ")"] rfl (by decide) (by decide)
  cases s with
  | call c => exact hcall
  | ifSome value parameter c =>
    refine Free.append (Free.append ?_ ?_) (free_braces hcall)
    · exact Free.append (free_words (by decide)) (freeBehind_name value).parens
    · exact Free.cons (free_nil.name (by decide) parameter) (by decide)
  | forEach value parameter c =>
    refine Free.append (Free.append ?_ hiter) (free_braces hcall)
    exact (free_nil.name (by decide) parameter).name (by decide) value
  | forEntries key value parameter c =>
    have hentry : Free f (parens [key, ",", value]) :=
      ((free_words (by decide)).name (by decide) value).name (by decide) key
    refine Free.append (Free.append (Free.append ?_ ?_) hiter) (free_braces hcall)
    · exact Free.append (free_words (by decide)) hentry
    · exact free_nil.name (by decide) parameter

theorem RequestClosure.free_code {c : RequestClosure} (h : Unnamed f c.mentions) :
    Free f c.code := by
  obtain ⟨hbase, hstatements⟩ := unnamed_cons.mp h
  have hverb : Free f (runtime ["HttpMethod", c.verb.variant] ++ [",", "&"]) := by
    cases c.verb <;> exact free_words (by decide)
  have hencoding : Free f (runtime ["Encoding", c.encoding.variant] ++ [","]) := by
    cases c.encoding <;> exact free_words (by decide)
  have htemplate : Free f [stringLiteral c.template, ","] :=
    (free_words (by decide)).before ⟨by decide, hf.ne (by decide)⟩ _
  have hnew : Free f (runtime ["RequestBuilder", "new"] ++
      parens (runtime ["HttpMethod", c.verb.variant] ++ [",", "&"] ++ fieldCode "base_url" ++
        [","] ++ [stringLiteral c.template, ","] ++ runtime ["Encoding", c.encoding.variant] ++
        [","])) := by
    refine Free.append (free_words (by decide)) (free_parens ?_)
    rw [List.append_assoc _ (runtime _)]
    refine Free.append (Free.append (Free.append ?_ (free_words (by decide))) htemplate) hencoding
    exact Free.append hverb (free_fieldCode hf hbase)
  have hrun : Free f (c.statements.flatMap RequestStatement.code) :=
    free_flatMap fun s hs => RequestStatement.free_code hf (unnamed_flatMap.mp hstatements s hs)
  have hbuilder : Free f [c.builder, "="] :=
    (free_words (by decide)).before ⟨by decide, hf.ne (by decide)⟩ _
  have hbuild : Free f (c.builder :: piece ". build ( )") :=
    free_calledOn hf c.builder "build" ["(", ")"] rfl (by decide) (by decide)
  refine Free.append (free_parens (Free.append (free_words (by decide)) (free_braces ?_)))
    (free_words (by decide))
  refine Free.append (Free.append (Free.append (Free.append (Free.append ?_ hbuilder) hnew) ?_)
    hrun) hbuild
  · exact free_words (by decide)
  · exact free_words (by decide)

theorem Shared.freeBehind_code {shared : Shared} (h : Unnamed f shared.mentions) :
    FreeBehind f shared.code := by
  cases shared with
  | field name => exact (free_fieldCode hf (unnamed_cons.mp h).1).behind
  | clone name => exact freeBehind_name name

theorem BodyExpr.free_code {e : BodyExpr} (h : Unnamed f e.mentions) : Free f e.code := by
  cases e with
  | unit body => exact Free.append (free_words (by decide)) (freeBehind_name body).parens
  | text body =>
    exact free_calledOn hf body "text" ["(", ")", "?"] rfl (by decide) (by decide)
  | octets body =>
    exact free_calledOn hf body "into_bytes" ["(", ")"] rfl (by decide) (by decide)
  | converted type converter body =>
    obtain ⟨htype, hconverter⟩ := unnamed_cons.mp h
    exact free_convertCode hf .responseBody htype (Shared.freeBehind_code hf hconverter)
      (freeBehind_name body)

theorem free_typedOkCode {type : TypeExpr} {value : PlainCode}
    (htype : ¬ fieldCode f <:+: (Mention.type type).code) (hvalue : Free f value) :
    Free f (typedOkCode type value) := by
  refine Free.append (Free.append (Free.append ?_ (free_typeCode hf htype)) ?_) (free_parens hvalue)
  · exact free_words (by decide)
  · exact free_words (by decide)

omit hf in
theorem free_okCode {value : PlainCode} (hvalue : FreeBehind f value) : Free f (okCode value) :=
  Free.append (free_words (by decide)) hvalue.parens

theorem InfoExpr.free_code {e : InfoExpr} (h : Unnamed f e.mentions) : Free f e.code := by
  obtain ⟨htype, hvalue⟩ := unnamed_cons.mp h
  have hnames : Free f [e.response, ",", "|", e.body, "|"] :=
    (((free_words (by decide)).name (by decide) e.body).cons (by decide)).before
      ⟨by decide, hf.ne (by decide)⟩ e.response
  refine Free.append (free_words (by decide)) (free_parens (hnames.append (free_braces ?_)))
  exact free_typedOkCode hf htype (BodyExpr.free_code hf hvalue)

theorem SuccessExpr.free_code {e : SuccessExpr} (h : Unnamed f e.value.mentions) :
    Free f e.code := by
  have hnames : Free f ["let", e.body, "=", e.response] :=
    (free_nil.name (by decide) e.response).name (by decide) e.body
  have hcall : Free f (piece ". into_success_body ( ) ? ;") :=
    free_called hf "into_success_body" ["(", ")", "?", ";"] rfl (by decide) (by decide)
  exact free_braces ((hnames.append hcall).append (BodyExpr.free_code hf h))

theorem MethodStatement.free_code {s : MethodStatement} (h : Unnamed f s.mentions) :
    Free f s.code := by
  have hlet (name : String) : Free f ["let", name, "="] :=
    (free_words (by decide)).name (by decide) name
  cases s with
  | build name closure fallible =>
    have hfallible : Free f (if fallible then ["?"] else []) := by
      split <;> exact free_words (by decide)
    refine Free.append (Free.append (Free.append (Free.append ?_ (hlet name)) ?_) hfallible) ?_
    · exact free_words (by decide)
    · exact RequestClosure.free_code hf h
    · exact free_words (by decide)
  | unwrap name =>
    exact ((free_words (by decide)).name (by decide) name).name (by decide) name
  | clone name field =>
    have hfield := free_fieldCode hf (unnamed_cons.mp h).1
    refine Free.append (Free.append (Free.append (hlet name) ?_) ?_) (free_words (by decide))
    · exact free_words (by decide)
    · exact free_parens (hfield.cons (by decide))
  | log label request =>
    have hurl : Free f [request, ".", "url", ")"] :=
      free_calledOn hf request "url" [")"] rfl (by decide) (by decide)
    have hmethod : Free f [request, ".", "method", ",", request, ".", "url", ")"] :=
      (hurl.cons (by decide)).dotted (hf.ne (by decide)) (hf.ne (by decide)) request
    exact Free.append (Free.append (free_words (by decide))
      ((hmethod.cons (by decide)).name (by decide) _)) (free_words (by decide))
  | send response transport request =>
    have hawait : Free f (piece ". await ? ;") :=
      free_called hf "await" ["?", ";"] rfl (by decide) (by decide)
    have hparens := free_dereferenced (Shared.freeBehind_code hf h) (freeBehind_name request)
    rw [List.append_assoc] at hparens
    refine Free.append (Free.append (Free.append (hlet response) ?_) hparens) hawait
    exact free_words (by decide)
  | success response =>
    exact free_calledOn hf response "into_success_body" ["(", ")", "?", ";"] rfl
      (by decide) (by decide)
  | info name value =>
    exact Free.append (Free.append (hlet name) (InfoExpr.free_code hf h)) (free_words (by decide))

theorem BlockEnd.free_code {e : BlockEnd} (h : Unnamed f e.mentions) : Free f e.code := by
  cases e with
  | unit => exact free_words (by decide)
  | value e => exact free_okCode (SuccessExpr.free_code hf h).behind
  | typed type e =>
    obtain ⟨htype, hvalue⟩ := unnamed_cons.mp h
    exact free_typedOkCode hf htype (SuccessExpr.free_code hf hvalue)
  | named name => exact free_okCode (freeBehind_name name)
  | info e => exact InfoExpr.free_code hf h

theorem free_statements {statements : List MethodStatement}
    (h : Unnamed f (statements.flatMap MethodStatement.mentions)) :
    Free f (statements.flatMap MethodStatement.code) :=
  free_flatMap fun s hs => MethodStatement.free_code hf (unnamed_flatMap.mp h s hs)

theorem MethodBlock.free_code {b : MethodBlock} (h : Unnamed f b.mentions) : Free f b.code := by
  obtain ⟨hstatements, hfinish⟩ := unnamed_append.mp h
  exact (free_statements hf hstatements).append (BlockEnd.free_code hf hfinish)

omit hf in
theorem CallbackArm.free_code (a : CallbackArm) : Free f a.code := by
  have hpath : Free f ([":", ":", "kite_common", ":", ":", "ResponseCallback", ":"] ++
      [":", a.method]) :=
    Free.append (free_words (by decide)) (free_nil.name (by decide) a.method)
  refine Free.append hpath (free_parens ?_)
  exact (free_nil.name (by decide) a.name).name (by decide) a.callback

theorem MethodBody.free_code {b : MethodBody} (h : Unnamed f b.mentions) : Free f b.code := by
  cases b with
  | awaited block => exact MethodBlock.free_code hf h
  | spawned detached outcome type block succeeded failed =>
    obtain ⟨hdetached, h⟩ := unnamed_append.mp h
    obtain ⟨htype, hblock⟩ := unnamed_cons.mp h
    have hawait : Free f (piece ". await ;") :=
      free_called hf "await" [";"] rfl (by decide) (by decide)
    have hinfo : Free f (runtime ["HttpInfo"] ++ angles (codeOf type.tokens)) :=
      Free.append (free_words (by decide)) (free_typeCode hf htype)
    have hresult : Free f (["let", outcome, ":"] ++ runtime ["Result"] ++
        angles (runtime ["HttpInfo"] ++ angles (codeOf type.tokens)) ++ piece "= async" ++
        braces block.code ++ piece ". await ;") := by
      refine Free.append (Free.append (Free.append (Free.append (Free.append ?_ ?_) ?_) ?_) ?_)
        hawait
      · exact (free_words (by decide)).name (by decide) outcome
      · exact free_words (by decide)
      · exact free_angles hinfo.silent (hf.ne (by decide))
      · exact free_words (by decide)
      · exact free_braces (MethodBlock.free_code hf hblock)
    have harms : Free f (okCode [succeeded.name] ++ piece "= >" ++ braces succeeded.code ++
        std ["result", "Result", "Err"] ++ parens [failed.name] ++ piece "= >" ++
        braces failed.code) := by
      refine Free.append (Free.append (Free.append (Free.append (Free.append (Free.append ?_ ?_)
        (free_braces succeeded.free_code)) ?_) ?_) ?_) (free_braces failed.free_code)
      · exact free_okCode (freeBehind_name _)
      · exact free_words (by decide)
      · exact free_words (by decide)
      · exact (freeBehind_name _).parens
      · exact free_words (by decide)
    have hmatch : Free f ["match", outcome] := free_nil.name (by decide) outcome
    refine Free.append (Free.append (Free.append (free_statements hf hdetached) ?_) ?_) ?_
    · exact free_words (by decide)
    · refine free_parens (Free.append (free_words (by decide)) (free_braces ?_))
      exact Free.append (Free.append hresult hmatch) (free_braces harms)
    · exact free_words (by decide)
  | streamed detached stream block boxed =>
    obtain ⟨hdetached, hblock⟩ := unnamed_append.mp h
    have hlet : Free f ["let", stream, "="] := (free_words (by decide)).name (by decide) stream
    have hasync : Free f (parens (piece "async move" ++ braces block.code)) :=
      free_parens (Free.append (free_words (by decide))
        (free_braces (MethodBlock.free_code hf hblock)))
    have htail : Free f ([";"] ++ stream :: (if boxed then piece ". into_inner ( )" else [])) := by
      cases boxed with
      | false => exact free_nil.name (by decide) stream
      | true =>
        exact Free.cons (free_calledOn hf stream "into_inner" ["(", ")"] rfl (by decide)
          (by decide)) (by decide)
    rw [code, List.append_assoc _ [";"]]
    refine Free.append (Free.append (Free.append ?_ (free_words (by decide))) hasync) htail
    exact (free_statements hf hdetached).append hlet

end Code

/-! ### What is mentioned stands in the code -/

section Infix

variable {word code : PlainCode} {x : Mention}

theorem infix_enclosed {front back : String} (h : word <:+: code) :
    word <:+: front :: code ++ [back] :=
  List.infix_cons (List.infix_append_of_infix_left h)

theorem infix_parens (h : word <:+: code) : word <:+: parens code :=
  infix_enclosed h

theorem infix_braces (h : word <:+: code) : word <:+: braces code :=
  infix_enclosed h

theorem infix_angles (h : word <:+: code) : word <:+: angles code :=
  infix_enclosed h

theorem infix_intercalate {separator : PlainCode} {pieces : List PlainCode}
    (h : word ∈ pieces) : word <:+: separator.intercalate pieces := by
  refine List.infix_of_mem_flatten ?_
  induction pieces with
  | nil => cases h
  | cons first rest ih =>
    cases rest with
    | nil => simpa using h
    | cons second rest =>
      rw [List.intersperse_cons_cons]
      rcases List.mem_cons.mp h with rfl | h
      · exact List.mem_cons_self
      · exact List.mem_cons_of_mem _ (List.mem_cons_of_mem _ (ih h))

theorem infix_flatMap {α : Type} {l : List α} {g : α → PlainCode} {a : α} (ha : a ∈ l)
    (h : word <:+: g a) : word <:+: l.flatMap g :=
  h.trans (List.infix_of_mem_flatten (List.mem_map_of_mem ha))

/-- A conversion names its type and the converter that it uses. -/
theorem infix_convertCode {kind : ConverterKind} {type : TypeExpr} {converter value : PlainCode}
    (h : word <:+: codeOf type.tokens ∨ word <:+: converter) :
    word <:+: convertCode kind type converter value := by
  unfold convertCode
  rcases h with h | h
  · refine List.infix_append_of_infix_left (List.infix_append_of_infix_left ?_)
    exact List.infix_append_of_infix_left (List.infix_append_of_infix_right (infix_angles h))
  · refine List.infix_append_of_infix_left (List.infix_append_of_infix_right (infix_parens ?_))
    refine List.infix_append_of_infix_left (List.infix_append_of_infix_left ?_)
    exact List.infix_append_of_infix_right h

theorem infix_typedOkCode {type : TypeExpr} {value : PlainCode}
    (h : word <:+: codeOf type.tokens ∨ word <:+: value) : word <:+: typedOkCode type value := by
  unfold typedOkCode
  rcases h with h | h
  · refine List.infix_append_of_infix_left (List.infix_append_of_infix_left ?_)
    exact List.infix_append_of_infix_right (infix_angles h)
  · exact List.infix_append_of_infix_right (infix_parens h)

theorem Conversion.infix_code {conversion : Conversion} {type : TypeExpr}
    (hx : x ∈ conversion.mentions type) (value : PlainCode) :
    x.code <:+: conversion.code type value := by
  cases conversion with
  | string field =>
    refine List.infix_cons (infix_convertCode ?_)
    rcases List.mem_pair.mp hx with rfl | rfl
    · exact .inl (List.infix_refl _)
    · exact .inr (List.infix_refl _)
  | body field =>
    refine infix_convertCode ?_
    rcases List.mem_pair.mp hx with rfl | rfl
    · exact .inl (List.infix_refl _)
    · exact .inr (List.infix_refl _)
  | _ => cases hx

theorem BuilderCall.infix_code {c : BuilderCall} (hx : x ∈ c.mentions) : x.code <:+: c.code := by
  unfold code
  refine List.infix_append_of_infix_left (List.infix_append_of_infix_left ?_)
  rcases List.mem_cons.mp hx with rfl | hx
  · exact List.infix_append_of_infix_left (List.infix_refl _)
  · obtain ⟨argument, ha, hx⟩ := List.mem_flatMap.mp hx
    refine List.infix_append_of_infix_right (infix_parens ?_)
    refine List.IsInfix.trans ?_ (infix_intercalate (List.mem_map_of_mem ha))
    cases argument with
    | value conversion type operand => exact Conversion.infix_code hx _
    | _ => cases hx

theorem RequestStatement.infix_code {s : RequestStatement} (hx : x ∈ s.made.mentions) :
    x.code <:+: s.code := by
  have hcall := BuilderCall.infix_code hx
  cases s with
  | call c => exact hcall
  | _ => exact List.infix_append_of_infix_right (infix_braces hcall)

theorem RequestClosure.infix_code {c : RequestClosure} (hx : x ∈ c.mentions) :
    x.code <:+: c.code := by
  unfold code
  dsimp only
  refine List.infix_append_of_infix_left (infix_parens ?_)
  refine List.infix_append_of_infix_right (infix_braces ?_)
  refine List.infix_append_of_infix_left ?_
  rcases List.mem_cons.mp hx with rfl | hx
  · refine List.infix_append_of_infix_left (List.infix_append_of_infix_left ?_)
    refine List.infix_append_of_infix_right (List.infix_append_of_infix_right (infix_parens ?_))
    refine List.infix_append_of_infix_left (List.infix_append_of_infix_left ?_)
    refine List.infix_append_of_infix_left (List.infix_append_of_infix_left ?_)
    exact List.infix_append_of_infix_right (List.infix_refl _)
  · obtain ⟨s, hs, hx⟩ := List.mem_flatMap.mp hx
    exact List.infix_append_of_infix_right (infix_flatMap hs (RequestStatement.infix_code hx))

theorem Shared.infix_code {shared : Shared} (hx : x ∈ shared.mentions) :
    x.code <:+: shared.code := by
  cases shared with
  | field name =>
    obtain rfl := List.mem_singleton.mp hx
    exact List.infix_refl _
  | clone name => cases hx

theorem BodyExpr.infix_code {e : BodyExpr} (hx : x ∈ e.mentions) : x.code <:+: e.code := by
  cases e with
  | converted type converter body =>
    refine infix_convertCode ?_
    rcases List.mem_cons.mp hx with rfl | hx
    · exact .inl (List.infix_refl _)
    · exact .inr (Shared.infix_code hx)
  | _ => cases hx

theorem infix_typedOkCode_of_mem {e : BodyExpr} {type : TypeExpr} {value : PlainCode}
    (hvalue : e.code <:+: value) (hx : x ∈ .type type :: e.mentions) :
    x.code <:+: typedOkCode type value := by
  refine infix_typedOkCode ?_
  rcases List.mem_cons.mp hx with rfl | hx
  · exact .inl (List.infix_refl _)
  · exact .inr ((BodyExpr.infix_code hx).trans hvalue)

theorem InfoExpr.infix_code {e : InfoExpr} (hx : x ∈ e.mentions) : x.code <:+: e.code := by
  refine List.infix_append_of_infix_right (infix_parens ?_)
  refine List.infix_append_of_infix_right (infix_braces ?_)
  exact infix_typedOkCode_of_mem (List.infix_refl _) hx

theorem SuccessExpr.infix_code (e : SuccessExpr) : e.value.code <:+: e.code :=
  infix_braces (List.infix_append_of_infix_right (List.infix_refl _))

theorem MethodStatement.infix_code {s : MethodStatement} (hx : x ∈ s.mentions) :
    x.code <:+: s.code := by
  cases s with
  | build name closure fallible =>
    refine List.infix_append_of_infix_left (List.infix_append_of_infix_left ?_)
    exact List.infix_append_of_infix_right (RequestClosure.infix_code hx)
  | clone name field =>
    obtain rfl := List.mem_singleton.mp hx
    refine List.infix_append_of_infix_left (List.infix_append_of_infix_right ?_)
    exact infix_parens (List.infix_cons (List.infix_refl _))
  | send response transport request =>
    refine List.infix_append_of_infix_left (List.infix_append_of_infix_right (infix_parens ?_))
    exact List.infix_append_of_infix_left (List.infix_append_of_infix_right (Shared.infix_code hx))
  | info name value =>
    refine List.infix_append_of_infix_left ?_
    exact List.infix_append_of_infix_right (InfoExpr.infix_code hx)
  | _ => cases hx

theorem BlockEnd.infix_code {e : BlockEnd} (hx : x ∈ e.mentions) : x.code <:+: e.code := by
  cases e with
  | value e =>
    refine List.infix_append_of_infix_right (infix_parens ?_)
    exact (BodyExpr.infix_code hx).trans e.infix_code
  | typed type e => exact infix_typedOkCode_of_mem e.infix_code hx
  | info e => exact InfoExpr.infix_code hx
  | _ => cases hx

theorem infix_statements {statements : List MethodStatement}
    (hx : x ∈ statements.flatMap MethodStatement.mentions) :
    x.code <:+: statements.flatMap MethodStatement.code := by
  obtain ⟨s, hs, hx⟩ := List.mem_flatMap.mp hx
  exact infix_flatMap hs (MethodStatement.infix_code hx)

theorem MethodBlock.infix_code {b : MethodBlock} (hx : x ∈ b.mentions) : x.code <:+: b.code := by
  rcases List.mem_append.mp hx with hx | hx
  · exact List.infix_append_of_infix_left (infix_statements hx)
  · exact List.infix_append_of_infix_right (BlockEnd.infix_code hx)

theorem MethodBody.infix_code {b : MethodBody} (hx : x ∈ b.mentions) : x.code <:+: b.code := by
  cases b with
  | awaited block => exact MethodBlock.infix_code hx
  | spawned detached outcome type block succeeded failed =>
    refine List.infix_append_of_infix_left ?_
    rcases List.mem_append.mp hx with hx | hx
    · exact List.infix_append_of_infix_left (List.infix_append_of_infix_left (infix_statements hx))
    · refine List.infix_append_of_infix_right (infix_parens ?_)
      refine List.infix_append_of_infix_right (infix_braces ?_)
      refine List.infix_append_of_infix_left (List.infix_append_of_infix_left ?_)
      refine List.infix_append_of_infix_left ?_
      rcases List.mem_cons.mp hx with rfl | hx
      · refine List.infix_append_of_infix_left (List.infix_append_of_infix_left ?_)
        refine List.infix_append_of_infix_right (infix_angles ?_)
        exact List.infix_append_of_infix_right (infix_angles (List.infix_refl _))
      · exact List.infix_append_of_infix_right (infix_braces (MethodBlock.infix_code hx))
  | streamed detached stream block boxed =>
    refine List.infix_append_of_infix_left (List.infix_append_of_infix_left ?_)
    rcases List.mem_append.mp hx with hx | hx
    · refine List.infix_append_of_infix_left (List.infix_append_of_infix_left ?_)
      exact List.infix_append_of_infix_left (infix_statements hx)
    · refine List.infix_append_of_infix_right (infix_parens ?_)
      exact List.infix_append_of_infix_right (infix_braces (MethodBlock.infix_code hx))

end Infix

/-- A body names the fields that it mentions, and what its types name, and no others. -/
theorem MethodBody.names_iff {f : String} (hf : IsConverterName f) (b : MethodBody) :
    fieldCode f <:+: b.code ↔ ∃ x ∈ b.mentions, fieldCode f <:+: x.code := by
  constructor
  · intro h
    by_contra hnone
    refine (MethodBody.free_code hf ?_).silent h
    exact fun x hx hnamed => hnone ⟨x, hx, hnamed⟩
  · rintro ⟨x, hx, hnamed⟩
    exact hnamed.trans (infix_code hx)

end RestClient
