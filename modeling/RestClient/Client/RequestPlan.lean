import RestClient.Client.ConverterPlan
import RestClient.Client.Emission
import RestClient.Client.Locals
import RestClient.Interface.Diagnostic

/-!
# Building a request

What a method does to build its request: it writes literal headers and then lets each parameter
contribute, in the order of declaration. In the generated code that is a closure with a statement
for each header and each parameter.

## Main definitions

- `Conversion` — how a value becomes what the builder takes
- `ParameterPlan`, `RequestPlan` — the contributions
- `RequestPlan.ofMethod` — the plan of a method
- `BuilderCall`, `RequestStatement`, `RequestClosure` — calls of the builder, statements, and the
  closure that they stand in, each with its code
- `RequestPlan.closure` — the plan as a closure
-/

namespace RestClient

open Code (TypeExpr PlainCode codeOf stringLiteral)
open Emission

/-- How a value becomes what the builder takes: it is a text, a field converts it to a text, it is
octets or a text to send, or a field converts it to a body. -/
inductive Conversion where
  | text
  | string (field : String)
  | octets
  | plainText
  | body (field : String)
  deriving DecidableEq, Repr

/-- What a parameter contributes. -/
structure ParameterPlan where
  parameter : String
  role : Role
  shape : ValueShape
  valueType : TypeExpr
  conversion : Conversion

/-- What a method does to build its request. -/
structure RequestPlan where
  verb : Verb
  template : String
  encoding : Encoding
  headers : List HeaderLiteral
  parameters : List ParameterPlan

/-- The diagnostic for a converter that has no field. -/
def unplanned (u : ConverterUse) : Diagnostic :=
  .internal ("no " ++ u.kind.text ++ " converter planned for \x60" ++
    PlainCode.text (codeOf u.type.tokens) ++ "\x60")

/-- The name of the field that holds a converter. -/
def plannedField (plan : ConverterPlan) (u : ConverterUse) : Except Diagnostic String :=
  match plan.field? u with
  | some f => .ok f.name
  | none => .error (unplanned u)

/-- How the values of a parameter become what the builder takes. -/
def conversionOf (plan : ConverterPlan) (p : ParameterDescriptor) : Except Diagnostic Conversion :=
  match p.role.kind with
  | .url => .ok .text
  | .body | .part | .partMap =>
    match bodyForm p.valueType with
    | .octets => .ok .octets
    | .text => .ok .plainText
    | .converted => (plannedField plan ⟨.requestBody, p.valueType⟩).map .body
  | _ =>
    if p.valueType.belongsTo .str then .ok .text
    else (plannedField plan ⟨.string, p.valueType⟩).map .string

/-- What a parameter contributes. -/
def ParameterPlan.ofDescriptor (plan : ConverterPlan) (p : ParameterDescriptor) :
    Except Diagnostic ParameterPlan :=
  (conversionOf plan p).map fun conversion => ⟨p.name, p.role, p.shape, p.valueType, conversion⟩

/-- What a method does to build its request. -/
def RequestPlan.ofMethod (plan : ConverterPlan) (m : MethodDescriptor) :
    Except Diagnostic RequestPlan :=
  (m.parameters.mapM (ParameterPlan.ofDescriptor plan)).map fun parameters =>
    ⟨m.verb, m.template, m.encoding, m.headers.map PlacedHeader.header, parameters⟩

/-! ### Statements -/

/-- A value as a reference to text. -/
def textCode (value : PlainCode) : PlainCode :=
  std ["convert", "AsRef"] ++ piece ": :" ++ angles ["str"] ++ piece ": : as_ref" ++ parens value

/-- A value converted by the converter in a field. -/
def convertCode (kind : ConverterKind) (type : TypeExpr) (field value : PlainCode) : PlainCode :=
  runtime [kind.traitName] ++ piece ": :" ++ angles (codeOf type.tokens) ++ piece ": : convert" ++
    parens (piece "& *" ++ field ++ [","] ++ value) ++ ["?"]

/-- A field of the client. -/
def fieldCode (field : String) : PlainCode :=
  ["self", ".", field]

/-- What the builder takes of a value of a type. -/
def Conversion.code (type : TypeExpr) (value : PlainCode) : Conversion → PlainCode
  | text => textCode value
  | string field => "&" :: convertCode .string type (fieldCode field) value
  | octets =>
    runtime ["RequestBody", "octet_stream"] ++
      parens (std ["convert", "AsRef"] ++ piece ": :" ++ angles (brackets ["u8"]) ++
        piece ": : as_ref" ++ parens value ++ piece ". to_vec ( )")
  | plainText => runtime ["RequestBody", "text"] ++ parens (textCode value)
  | body field => convertCode .requestBody type (fieldCode field) value

/-- A value that is named: one that is held, which is borrowed, or a reference to one. -/
inductive Operand where
  | held (name : String)
  | reference (name : String)

/-- A named value as a reference. -/
def Operand.code : Operand → PlainCode
  | held name => ["&", name]
  | reference name => [name]

/-- What a method of the builder is given: a text that is written out, the text of a key, what the
builder takes of a value, or a truth value. -/
inductive BuilderArgument where
  | literal (text : String)
  | key (name : String)
  | value (conversion : Conversion) (type : TypeExpr) (operand : Operand)
  | flag (truth : Bool)

/-- An argument as code. -/
def BuilderArgument.code : BuilderArgument → PlainCode
  | literal text => [stringLiteral text]
  | key name => textCode [name]
  | value conversion type operand => conversion.code type operand.code
  | flag truth => [toString truth]

/-- A call of a method of the builder. The failure of a fallible one ends the closure. -/
structure BuilderCall where
  builder : String
  method : String
  arguments : List BuilderArgument
  fallible : Bool

/-- A call as code. -/
def BuilderCall.code (c : BuilderCall) : PlainCode :=
  [c.builder, ".", c.method] ++ parens ([","].intercalate (c.arguments.map BuilderArgument.code)) ++
    (if c.fallible then ["?"] else []) ++ [";"]

/-- A statement of the closure: a call that is made once, if a parameter has a value, for each
element of a parameter, or for each entry of one. -/
inductive RequestStatement where
  | call (call : BuilderCall)
  | ifSome (value parameter : String) (call : BuilderCall)
  | forEach (value parameter : String) (call : BuilderCall)
  | forEntries (key value parameter : String) (call : BuilderCall)

/-- A statement as code. -/
def RequestStatement.code : RequestStatement → PlainCode
  | call c => c.code
  | ifSome value parameter c =>
    piece "if let" ++ std ["option", "Option", "Some"] ++ parens [value] ++
      ["=", "&", parameter] ++ braces c.code
  | forEach value parameter c =>
    ["for", value, "in", parameter] ++ piece ". iter ( )" ++ braces c.code
  | forEntries key value parameter c =>
    ["for"] ++ parens [key, ",", value] ++ ["in", parameter] ++ piece ". iter ( )" ++ braces c.code

/-- The closure that builds a request: it makes a builder, runs its statements, and has the builder
build the request. -/
structure RequestClosure where
  builder : String
  verb : Verb
  template : String
  encoding : Encoding
  statements : List RequestStatement

/-- The call of a closure as code. -/
def RequestClosure.code (c : RequestClosure) : PlainCode :=
  let new := runtime ["RequestBuilder", "new"] ++
    parens (runtime ["HttpMethod", c.verb.variant] ++ [",", "&"] ++ fieldCode "base_url" ++ [","] ++
      [stringLiteral c.template, ","] ++ runtime ["Encoding", c.encoding.variant] ++ [","])
  parens (piece "| | - >" ++ runtime ["Result"] ++ angles (runtime ["Request"]) ++
      braces (marked "allow" ["unused_mut"] ++
        piece "let mut" ++ [c.builder, "="] ++ new ++ [";"] ++
        c.statements.flatMap RequestStatement.code ++
        c.builder :: piece ". build ( )")) ++
    parens []

/-! ### Plans as statements -/

/-- The call that writes one value into the builder. -/
def ParameterPlan.call (l : Locals) (p : ParameterPlan) (operand : Operand) : BuilderCall :=
  let name : BuilderArgument :=
    if p.role.kind.isMap then .key l.key else .literal (p.role.name?.getD "")
  let value := .value p.conversion p.valueType operand
  let encoded := .flag p.role.encoded
  match p.role.kind with
  | .path => ⟨l.builder, "path", [name, value, encoded], true⟩
  | .query | .queryMap => ⟨l.builder, "query", [name, value, encoded], false⟩
  | .field | .fieldMap => ⟨l.builder, "field", [name, value, encoded], false⟩
  | .header | .headerMap => ⟨l.builder, "header", [name, value], false⟩
  | .part | .partMap => ⟨l.builder, "part", [name, value], false⟩
  | .body => ⟨l.builder, "body", [value], false⟩
  | .url => ⟨l.builder, "url", [value], false⟩

/-- The statement that lets a parameter contribute. -/
def ParameterPlan.statement (l : Locals) (p : ParameterPlan) : RequestStatement :=
  if p.role.kind = .url then .call (p.call l (.held p.parameter))
  else
    match p.shape with
    | .single => .call (p.call l (.held p.parameter))
    | .optional => .ifSome l.value p.parameter (p.call l (.reference l.value))
    | .repeated => .forEach l.value p.parameter (p.call l (.reference l.value))
    | .map => .forEntries l.key l.value p.parameter (p.call l (.reference l.value))

/-- The statement that writes a literal header. -/
def HeaderLiteral.statement (l : Locals) (h : HeaderLiteral) : RequestStatement :=
  .call ⟨l.builder, "header", [.literal h.name, .literal h.value], false⟩

/-- The closure that builds the request. -/
def RequestPlan.closure (l : Locals) (r : RequestPlan) : RequestClosure where
  builder := l.builder
  verb := r.verb
  template := r.template
  encoding := r.encoding
  statements :=
    r.headers.map (HeaderLiteral.statement l) ++ r.parameters.map (ParameterPlan.statement l)

end RestClient
