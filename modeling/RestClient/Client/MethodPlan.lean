import RestClient.Client.RequestPlan

/-!
# Methods of a client

What a generated method does: it builds its request, hands it to the transport, and delivers the
response in the way that its return type asks for. A method that is awaited does all that when it is
polled. The others build their request at once, and take what the rest of their statements need out
of the client.

## Main definitions

- `ResponsePlan` — how the body of a response becomes a value
- `MethodPlan` — a method, with `MethodPlan.ofMethod`
- `MethodStatement`, `BlockEnd`, `MethodBlock`, `MethodBody` — statements, the expressions at the
  end of them, and the body of a method, each with its code
- `MethodPlan.body`, `MethodPlan.code` — the method as statements, and as code
-/

namespace RestClient

open Code (TypeExpr PlainCode codeOf stringLiteral Signature)
open Emission

/-- How the body of a response becomes a value: not at all, as a text, as octets, or by the
converter in a field. -/
inductive ResponsePlan where
  | unit
  | text
  | octets
  | converted (field : String)
  deriving DecidableEq, Repr

/-- How the body of a response becomes a value of a type. -/
def ResponsePlan.ofType (plan : ConverterPlan) (t : TypeExpr) : Except Diagnostic ResponsePlan :=
  match responseForm t with
  | .unit => .ok .unit
  | .text => .ok .text
  | .octets => .ok .octets
  | .converted => (plannedField plan ⟨.responseBody, t⟩).map .converted

/-- A method: its request, and what becomes of the response. -/
structure MethodPlan where
  signature : Signature
  logName : String
  request : RequestPlan
  returns : ReturnShape
  response : ResponsePlan
  callback : String
  locals : Locals

/-- The plan of a method of the interface called `traitName`. -/
def MethodPlan.ofMethod (plan : ConverterPlan) (traitName : String) (locals : Locals)
    (m : MethodDescriptor) : Except Diagnostic MethodPlan := do
  let request ← RequestPlan.ofMethod plan m
  let callback ←
    match m.returns, m.callback with
    | .callback _, none =>
      throw (.internal ("callback parameter missing on \x60" ++ m.name ++ "\x60"))
    | _, c => pure ((c.map CallbackDescriptor.name).getD "")
  let response ←
    match m.returns.responseType? with
    | none => pure .unit
    | some t => ResponsePlan.ofType plan t
  return ⟨m.signature, traitName ++ "." ++ m.name, request, m.returns, response, callback, locals⟩

/-! ### Statements -/

/-- Something that is shared: it is in a field of the client, or a clone of it has a name. -/
inductive Shared where
  | field (field : String)
  | clone (name : String)

/-- What names something that is shared. -/
def Shared.code : Shared → PlainCode
  | field f => fieldCode f
  | clone name => [name]

/-- An expression that makes a value of a body. -/
inductive BodyExpr where
  | unit (body : String)
  | text (body : String)
  | octets (body : String)
  | converted (type : TypeExpr) (converter : Shared) (body : String)

/-- The value of a body as code. -/
def BodyExpr.code : BodyExpr → PlainCode
  | unit body => std ["mem", "drop"] ++ parens [body]
  | text body => body :: piece ". text ( ) ?"
  | octets body => body :: piece ". into_bytes ( )"
  | converted type converter body => convertCode .responseBody type converter.code [body]

/-- The success of an expression, with the type that its value has. -/
def typedOkCode (type : TypeExpr) (value : PlainCode) : PlainCode :=
  runtime ["Result"] ++ piece ": :" ++ angles (codeOf type.tokens) ++ piece ": : Ok" ++ parens value

/-- The success of an expression. -/
def okCode (value : PlainCode) : PlainCode :=
  std ["result", "Result", "Ok"] ++ parens value

/-- An expression that makes a value with status and headers of a response. The body of a success
gets a name, under which its value is made. -/
structure InfoExpr where
  type : TypeExpr
  response : String
  body : String
  value : BodyExpr

/-- A value with status and headers as code. -/
def InfoExpr.code (e : InfoExpr) : PlainCode :=
  runtime ["HttpInfo", "from_response"] ++
    parens ([e.response, ",", "|", e.body, "|"] ++ braces (typedOkCode e.type e.value.code))

/-- An expression that makes a value of a response, which has to be a success. -/
structure SuccessExpr where
  response : String
  body : String
  value : BodyExpr

/-- The value of a successful response as code. -/
def SuccessExpr.code (e : SuccessExpr) : PlainCode :=
  braces (["let", e.body, "=", e.response] ++ piece ". into_success_body ( ) ? ;" ++ e.value.code)

/-- A statement of a method. It names the request that a closure builds, or what comes of building
it; takes the failure out of that; names a clone of a field; logs a request; names the response to
one; asks for success; or names a value with status and headers. -/
inductive MethodStatement where
  | build (name : String) (closure : RequestClosure) (fallible : Bool)
  | unwrap (name : String)
  | clone (name field : String)
  | log (label request : String)
  | send (response : String) (transport : Shared) (request : String)
  | success (response : String)
  | info (name : String) (value : InfoExpr)

/-- A statement as code. -/
def MethodStatement.code : MethodStatement → PlainCode
  | build name closure fallible =>
    "#" :: brackets (["allow"] ++ parens (piece "clippy : : redundant_closure_call")) ++
      ["let", name, "="] ++ closure.code ++ (if fallible then ["?"] else []) ++ [";"]
  | unwrap name => ["let", name, "=", name, "?", ";"]
  | clone name field =>
    ["let", name, "="] ++ std ["sync", "Arc", "clone"] ++ parens ("&" :: fieldCode field) ++ [";"]
  | log label request =>
    runtime ["log", "debug"] ++ ["!"] ++
      parens ([stringLiteral (label ++ ": \x7b\x7d \x7b\x7d"), ",", request, ".", "method", ",",
        request, ".", "url"]) ++ [";"]
  | send response transport request =>
    ["let", response, "="] ++ runtime ["HttpClient", "execute"] ++
      parens (piece "& *" ++ transport.code ++ [",", request]) ++ piece ". await ? ;"
  | success response => response :: piece ". into_success_body ( ) ? ;"
  | info name value => ["let", name, "="] ++ value.code ++ ["?", ";"]

/-- What stands at the end of statements: success alone, the value of a successful response, with
or without its type, a value with status and headers that has a name, or one that is made. -/
inductive BlockEnd where
  | unit
  | value (value : SuccessExpr)
  | typed (type : TypeExpr) (value : SuccessExpr)
  | named (info : String)
  | info (value : InfoExpr)

/-- The end of statements as code. -/
def BlockEnd.code : BlockEnd → PlainCode
  | unit => okCode (piece "( )")
  | value e => okCode e.code
  | typed type e => typedOkCode type e.code
  | named name => okCode [name]
  | info e => e.code

/-- Statements and what stands at their end. -/
structure MethodBlock where
  statements : List MethodStatement
  finish : BlockEnd

/-- A block as code. -/
def MethodBlock.code (b : MethodBlock) : PlainCode :=
  b.statements.flatMap MethodStatement.code ++ b.finish.code

/-- An arm that tells a callback of an outcome: the name that it takes the outcome apart with, and
the method that is called. -/
structure CallbackArm where
  name : String
  method : String
  callback : String

/-- What an arm does as code. -/
def CallbackArm.code (a : CallbackArm) : PlainCode :=
  runtime ["ResponseCallback", a.method] ++ parens ["&", a.callback, ",", a.name]

/-- The body of a method. It is a block that is awaited. Or some statements run at once, and a block
behind them runs in the background, where an arm for either outcome tells a callback; or it gives
the item of a stream. -/
inductive MethodBody where
  | awaited (block : MethodBlock)
  | spawned (detached : List MethodStatement) (outcome : String) (type : TypeExpr)
      (block : MethodBlock) (succeeded failed : CallbackArm)
  | streamed (detached : List MethodStatement) (stream : String) (block : MethodBlock)
      (boxed : Bool)

/-- A body as code. -/
def MethodBody.code : MethodBody → PlainCode
  | awaited block => block.code
  | spawned detached outcome type block succeeded failed =>
    detached.flatMap MethodStatement.code ++ runtime ["spawn"] ++
      parens (piece "async move" ++ braces (
        ["let", outcome, ":"] ++ runtime ["Result"] ++
          angles (runtime ["HttpInfo"] ++ angles (codeOf type.tokens)) ++ piece "= async" ++
          braces block.code ++ piece ". await ;" ++ ["match", outcome] ++ braces (
            okCode [succeeded.name] ++ piece "= >" ++ braces succeeded.code ++
            std ["result", "Result", "Err"] ++ parens [failed.name] ++ piece "= >" ++
            braces failed.code))) ++ [";"]
  | streamed detached stream block boxed =>
    detached.flatMap MethodStatement.code ++ ["let", stream, "="] ++
      runtime ["ResponseStream", "once"] ++ parens (piece "async move" ++ braces block.code) ++
      [";"] ++ stream :: (if boxed then piece ". into_inner ( )" else [])

/-! ### Plans as statements -/

namespace MethodPlan

variable (m : MethodPlan)

/-- What makes a value of a body. In the background the converter has been cloned. -/
def bodyExpr (inBackground : Bool) (type : TypeExpr) : BodyExpr :=
  let l := m.locals
  match m.response with
  | .unit => .unit l.body
  | .text => .text l.body
  | .octets => .octets l.body
  | .converted field =>
    .converted type (if inBackground then .clone l.converter else .field field) l.body

/-- What makes a value with status and headers of the response. -/
def infoExpr (inBackground : Bool) (type : TypeExpr) : InfoExpr :=
  ⟨type, m.locals.response, m.locals.body, m.bodyExpr inBackground type⟩

/-- What makes a value of the response. -/
def successExpr (inBackground : Bool) (type : TypeExpr) : SuccessExpr :=
  ⟨m.locals.response, m.locals.body, m.bodyExpr inBackground type⟩

/-- The statements that log a request and wait for the response to it. -/
def exchange (transport : Shared) : List MethodStatement :=
  let l := m.locals
  [.log m.logName l.request, .send l.response transport l.request]

/-- The statements of a method that waits for its response. -/
def waiting : List MethodStatement :=
  .build m.locals.request (m.request.closure m.locals) true :: m.exchange (.field "http_client")

/-- The statements that run at once where the rest runs in the background. They take what the rest
needs out of the client. -/
def detached : List MethodStatement :=
  let l := m.locals
  let converter : List MethodStatement :=
    match m.response with
    | .converted field => [.clone l.converter field]
    | _ => []
  [.build l.request (m.request.closure l) false, .clone l.httpClient "http_client"] ++ converter

/-- The statements that send the request in the background. -/
def background : List MethodStatement :=
  .unwrap m.locals.request :: m.exchange (.clone m.locals.httpClient)

/-- The body of a method. -/
def body : MethodBody :=
  let l := m.locals
  match m.returns with
  | .void => .awaited ⟨m.waiting ++ [.success l.response], .unit⟩
  | .value type => .awaited ⟨m.waiting, .value (m.successExpr false type)⟩
  | .info type => .awaited ⟨m.waiting ++ [.info l.info (m.infoExpr false type)], .named l.info⟩
  | .callback type =>
    .spawned m.detached l.outcome type ⟨m.background, .info (m.infoExpr true type)⟩
      ⟨l.info, "on_success", m.callback⟩ ⟨l.error, "on_failure", m.callback⟩
  | .reactive item true boxed =>
    .streamed m.detached l.stream ⟨m.background, .info (m.infoExpr true item)⟩ boxed
  | .reactive item false boxed =>
    .streamed m.detached l.stream ⟨m.background, .typed item (m.successExpr true item)⟩ boxed

/-- The statements of a method as code. -/
def block : PlainCode :=
  m.body.code

/-- The method as code. -/
def code : PlainCode :=
  m.signature.code ++ braces m.block

end MethodPlan

end RestClient
