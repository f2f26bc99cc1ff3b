import RestClient.Client.Construction
import RestClient.Client.Convention

/-!
# Execution

The body of a method as it runs, statement by statement. As in a constructor, names stand for what
they were given to last, and code that names what there is not, or what is of another type, has no
meaning. Here a name is an identifier: the mark of a raw one is no part of it. What runs in the
background finds the names of the statements in front of it.

## Main definitions

- `LocalValue`, `LocalScope` — what names stand for
- `RequestClosure.run` — the request that a closure builds
- `Execution` — code that runs from poll to poll
- `MethodStatement.run`, `BlockEnd.run`, `MethodBlock.run` — what statements and their end do
- `MethodBody.start` — what the body of a method does when it is called, and what it leaves to be
  polled
-/

namespace RestClient

open Code (plainName)
open Http (BodyReader Block Contribution Event Failure HttpInfo Output Request RequestBody
  RequestBuilder Response ResponseBody Routine Session)
open Json (Content)

/-! ### Names -/

/-- What a name stands for in the body of a method. The builder of a request is not among the
values, since it changes; its name stands for the one builder that there is. -/
inductive LocalValue where
  | argument (value : Argument)
  | callback
  | builder
  | item (value : Content)
  | key (text : String)
  | built (result : Except Failure Request)
  | request (value : Request)
  | shared (field : String)
  | response (value : Response)
  | body (value : ResponseBody)
  | outcome (result : Except Failure (HttpInfo Content))
  | info (value : HttpInfo Content)
  | failure (value : Failure)

/-- Identifiers with what they stand for, the latest first. -/
abbrev LocalScope :=
  List (String × LocalValue)

namespace LocalScope

/-- A name more. -/
def naming (scope : LocalScope) (name : String) (value : LocalValue) : LocalScope :=
  (plainName name, value) :: scope

/-- What a name stands for. -/
def value? (scope : LocalScope) (name : String) : Option LocalValue :=
  scope.lookup (plainName name)

end LocalScope

/-- What comes of code that has a meaning. -/
def CodeFault.settle? {β : Type} : Except CodeFault β → Option (Except Failure β)
  | .ok b => some (.ok b)
  | .error (.failed f) => some (.error f)
  | .error .meaningless => none

/-! ### Requests -/

/-- What a method of the builder can be given. -/
inductive BuilderValue where
  | text (value : String)
  | body (value : RequestBody)
  | flag (truth : Bool)

/-- The contribution that a call of a method of the builder with some values makes. -/
def BuilderValue.contribution? : String → List BuilderValue → Option Contribution
  | "url", [.text value] => some (.url value)
  | "path", [.text name, .text value, .flag encoded] => some (.path name value encoded)
  | "query", [.text name, .text value, .flag encoded] => some (.query name value encoded)
  | "header", [.text name, .text value] => some (.header name value)
  | "field", [.text name, .text value, .flag encoded] => some (.field name value encoded)
  | "part", [.text name, .body value] => some (.part name value)
  | "body", [.body value] => some (.body value)
  | _, _ => none

/-- The value that an operand refers to. -/
def Operand.value? (scope : LocalScope) : Operand → Option Content
  | held name =>
    match scope.value? name with
    | some (.argument (.single c)) => some c
    | _ => none
  | reference name =>
    match scope.value? name with
    | some (.item c) => some c
    | _ => none

/-- What the builder takes of a value. -/
def Conversion.run (converters : Converters) (c : Content) :
    Conversion → Except Failure BuilderValue
  | text => .ok (.text c.asText)
  | string field => (converters .string field c).map .text
  | octets => .ok (.body (.octetStream c.asOctets))
  | plainText => .ok (.body (.text c.asText))
  | body field => (converters .requestBody field c).map .body

/-- What a method of the builder is given. -/
def BuilderArgument.run (converters : Converters) (scope : LocalScope) :
    BuilderArgument → Except CodeFault BuilderValue
  | literal text => .ok (.text text)
  | key name =>
    match scope.value? name with
    | some (.key text) => .ok (.text text)
    | _ => .error .meaningless
  | value conversion _ operand =>
    match operand.value? scope with
    | some c => (conversion.run converters c).mapError .failed
    | none => .error .meaningless
  | flag truth => .ok (.flag truth)

/-- The methods of the builder that fail. -/
def BuilderCall.failing : List String :=
  ["path"]

/-- What a call makes of the builder. The failure of a method that fails, and of no other, ends the
closure. -/
def BuilderCall.run (converters : Converters) (scope : LocalScope) (b : RequestBuilder)
    (c : BuilderCall) : Except CodeFault RequestBuilder :=
  match scope.value? c.builder with
  | some .builder => do
    let values ← c.arguments.mapM (BuilderArgument.run converters scope)
    match BuilderValue.contribution? c.method values with
    | some contribution =>
      if c.fallible = failing.contains c.method then (b.add contribution).mapError .failed
      else .error .meaningless
    | none => .error .meaningless
  | _ => .error .meaningless

/-- What a statement makes of the builder. -/
def RequestStatement.run (converters : Converters) (scope : LocalScope) (b : RequestBuilder) :
    RequestStatement → Except CodeFault RequestBuilder
  | call c => c.run converters scope b
  | ifSome value parameter c =>
    match scope.value? parameter with
    | some (.argument (.optional v)) =>
      v.toList.foldlM (fun b v => c.run converters (scope.naming value (.item v)) b) b
    | _ => .error .meaningless
  | forEach value parameter c =>
    match scope.value? parameter with
    | some (.argument (.repeated vs)) =>
      vs.foldlM (fun b v => c.run converters (scope.naming value (.item v)) b) b
    | _ => .error .meaningless
  | forEntries key value parameter c =>
    match scope.value? parameter with
    | some (.argument (.map entries)) =>
      entries.foldlM (fun b (k, v) =>
        c.run converters ((scope.naming key (.key k)).naming value (.item v)) b) b
    | _ => .error .meaningless

/-- The request that a closure builds. -/
def RequestClosure.run (converters : Converters) (baseUrl : String) (scope : LocalScope)
    (c : RequestClosure) : Except CodeFault Request := do
  let b ← c.statements.foldlM (RequestStatement.run converters (scope.naming c.builder .builder))
    (RequestBuilder.new c.verb baseUrl c.template c.encoding)
  b.build.mapError .failed

/-! ### Methods -/

/-- Code that runs from poll to poll. -/
abbrev Execution (β : Type) :=
  ExceptT CodeFault (Routine Content) β

namespace Execution

variable {β : Type}

/-- Code that has no meaning. -/
def meaningless : Execution β :=
  ExceptT.mk (.done (.error .meaningless))

/-- Code that gives a result at once. -/
def ofResult (x : Except Failure β) : Execution β :=
  ExceptT.mk (.done (x.mapError .failed))

/-- A block as code. -/
def ofBlock (x : Block Content β) : Execution β :=
  ExceptT.mk (Except.mapError .failed <$> x.run)

end Execution

open Execution (meaningless ofResult ofBlock)

variable (converters : Converters) (baseUrl : String)

/-- The field that something shared is in. -/
def Shared.field? (scope : LocalScope) : Shared → Option String
  | field f => some f
  | clone name =>
    match scope.value? name with
    | some (.shared f) => some f
    | _ => none

/-- The body that an expression makes a value of. -/
def BodyExpr.body : BodyExpr → String
  | unit body | text body | octets body | converted _ _ body => body

/-- How an expression makes a value of a body. -/
def BodyExpr.reader? (scope : LocalScope) : BodyExpr → Option (BodyReader Content)
  | unit _ => some fun _ => .ok .null
  | text _ => some fun body => body.text.map .text
  | octets _ => some fun body => .ok (.ofOctets body.octets)
  | converted _ converter _ => (converter.field? scope).map (converters .responseBody)

/-- The value of a body. -/
def BodyExpr.run (scope : LocalScope) (e : BodyExpr) : Execution Content :=
  match scope.value? e.body, e.reader? converters scope with
  | some (.body body), some read => do
    ofBlock (Block.happens (.read body))
    ofResult (read body)
  | _, _ => meaningless

/-- The value of a successful response. -/
def SuccessExpr.run (scope : LocalScope) (e : SuccessExpr) : Execution Content :=
  match scope.value? e.response with
  | some (.response response) => do
    let body ← ofResult response.successBody
    e.value.run converters (scope.naming e.body (.body body))
  | _ => meaningless

/-- A value with status and headers. -/
def InfoExpr.run (scope : LocalScope) (e : InfoExpr) : Execution (HttpInfo Content) :=
  match scope.value? e.response with
  | some (.response response) => do
    if Http.isSuccess response.status then
      let value ← e.value.run converters (scope.naming e.body (.body response.body))
      return ⟨response.status, response.headers, some value, none⟩
    else return ⟨response.status, response.headers, none, some response.body.octets⟩
  | _ => meaningless

/-- What a statement does: a name more, or an end of it all. -/
def MethodStatement.run (scope : LocalScope) : MethodStatement → Execution LocalScope
  | build name closure fallible =>
    match CodeFault.settle? (closure.run converters baseUrl scope) with
    | some result => do
      ofBlock (Block.happens (.built result))
      if fallible then
        let request ← ofResult result
        return scope.naming name (.request request)
      else return scope.naming name (.built result)
    | none => meaningless
  | unwrap name =>
    match scope.value? name with
    | some (.built result) => do
      let request ← ofResult result
      return scope.naming name (.request request)
    | _ => meaningless
  | clone name field => return scope.naming name (.shared field)
  | log _ request =>
    match scope.value? request with
    | some (.request _) => return scope
    | _ => meaningless
  | send response transport request =>
    match transport.field? scope, scope.value? request with
    | some "http_client", some (.request value) => do
      let answer ← ofBlock (Block.execute value)
      return scope.naming response (.response answer)
    | _, _ => meaningless
  | success response =>
    match scope.value? response with
    | some (.response value) => do
      let _ ← ofResult value.successBody
      return scope
    | _ => meaningless
  | info name value => do
    let found ← value.run converters scope
    return scope.naming name (.info found)

/-- Statements, one after the other. -/
def MethodStatement.runAll (statements : List MethodStatement) (scope : LocalScope) :
    Execution LocalScope :=
  statements.foldlM (MethodStatement.run converters baseUrl) scope

/-- What stands at the end of statements. -/
def BlockEnd.run (scope : LocalScope) : BlockEnd → Execution (Output Content)
  | unit => return .value .null
  | value e | typed _ e => return .value (← e.run converters scope)
  | named name =>
    match scope.value? name with
    | some (.info found) => return .info found
    | _ => meaningless
  | info e => return .info (← e.run converters scope)

/-- What a block gives. -/
def MethodBlock.run (scope : LocalScope) (b : MethodBlock) : Execution (Output Content) := do
  let scope ← MethodStatement.runAll converters baseUrl b.statements scope
  b.finish.run converters scope

/-- What an arm tells the callback. Each of the two methods takes what its own outcome is about. -/
def CallbackArm.run (scope : LocalScope) (a : CallbackArm) : Execution Unit :=
  match scope.value? a.callback, a.method, scope.value? a.name with
  | some .callback, "on_success", some (.info info) => ofBlock (Block.happens (.succeeded info))
  | some .callback, "on_failure", some (.failure f) => ofBlock (Block.happens (.failed f))
  | _, _, _ => meaningless

/-- The arm for an outcome that has a name, with what it takes the outcome apart into. -/
def CallbackArm.select (scope : LocalScope) (outcome : String) (succeeded failed : CallbackArm) :
    Execution Unit :=
  match scope.value? outcome with
  | some (.outcome (.ok info)) => succeeded.run (scope.naming succeeded.name (.info info))
  | some (.outcome (.error f)) => failed.run (scope.naming failed.name (.failure f))
  | _ => meaningless

/-- What a block with status and headers comes to, as the outcome of it. -/
def MethodBlock.outcome (scope : LocalScope) (b : MethodBlock) :
    Execution (Except Failure (HttpInfo Content)) :=
  ExceptT.mk do
    match CodeFault.settle? (← (b.run converters baseUrl scope).run) with
    | some (.ok (.info info)) => return .ok (.ok info)
    | some (.error f) => return .ok (.error f)
    | some (.ok (.value _)) | none => return .error .meaningless

/-- What the code of a method has left to be polled. -/
inductive CodeSession where
  | giving (routine : Routine Content (Except CodeFault (Output Content)))
  | working (routine : Routine Content (Except CodeFault Unit))

/-- What is left of code is polled like a session, so none of it is without meaning. -/
def CodeSession.Means : CodeSession → Session Content → Prop
  | giving code, .giving routine => code = Except.mapError .failed <$> routine
  | working code, .working routine => code = Except.ok <$> routine
  | _, _ => False

/-- What happens in statements that neither wait nor fail, and the names behind them. -/
def MethodStatement.runAtOnce? (statements : List MethodStatement) (scope : LocalScope) :
    Option (List (Event Content) × LocalScope) :=
  match (MethodStatement.runAll converters baseUrl statements scope).run.poll none with
  | (events, .inl (.ok scope)) => some (events, scope)
  | _ => none

/-- What happens when the body of a method is called, and what it leaves to be polled. -/
def MethodBody.start? (scope : LocalScope) :
    MethodBody → Option (List (Event Content) × CodeSession)
  | awaited block => some ([], .giving (block.run converters baseUrl scope).run)
  | spawned detached outcome _ block succeeded failed =>
    (MethodStatement.runAtOnce? converters baseUrl detached scope).map fun (events, scope) =>
      let task : Execution Unit := do
        let result ← block.outcome converters baseUrl scope
        CallbackArm.select (scope.naming outcome (.outcome result)) outcome succeeded failed
      (events, .working task.run)
  | streamed detached _ block _ =>
    (MethodStatement.runAtOnce? converters baseUrl detached scope).map fun (events, scope) =>
      (events, .giving (block.run converters baseUrl scope).run)

/-- The names that the body of a method begins with: its parameters, with a callback among them
where it delivers to one. -/
def MethodPlan.scope (arguments : Arguments) (m : MethodPlan) : LocalScope :=
  let callback : LocalScope :=
    match m.returns with
    | .callback _ => [(plainName m.callback, .callback)]
    | _ => []
  (m.request.parameters.map fun p =>
    (plainName p.parameter, .argument (arguments p.parameter))) ++ callback

end RestClient
