import RestClient.Client.ConverterPlan
import RestClient.Client.Emission

/-!
# The type of a client

The generated type that implements an interface, and the type that builds it. A client holds the
address that requests start from, a transport, a factory of converters, and the converters that the
factory made when the client was built.

## Main definitions

- `Statement` — the statements of a constructor, with `Statement.code`
- `ClientType` — what the two types are made of
- `ClientType.members`, `ClientType.constructor`, `ClientType.filled` — the fields of a client, the
  statements that make them, and the names that they are filled from
- `ClientType.structCode`, `ClientType.builderCode` — the types
- `ClientType.builderImplCode`, `ClientType.implCode` — what they can do
-/

namespace RestClient

open Code (PlainCode TypeExpr codeOf stringLiteral)
open Emission

/-! ### Statements -/

/-- The type of shared converters for a type that have a trait. -/
def converterCode (traitName : String) (type : PlainCode) : PlainCode :=
  shared ("dyn" :: runtime [traitName] ++ angles type)

/-- The type of the field for a converter. -/
def ConverterField.typeCode (f : ConverterField) : PlainCode :=
  converterCode f.use.kind.traitName (codeOf f.use.type.tokens)

/-- The default value of a type. -/
def defaultOf (type : PlainCode) : PlainCode :=
  angles (type ++ "as" :: std ["default", "Default"]) ++ piece ": : default ( )"

/-- What stands for a setting that is not given: a text, or the default value of a type, shared. -/
inductive SettingDefault where
  | text (value : String)
  | shared (type : PlainCode)

/-- The default of a setting as code. -/
def SettingDefault.code : SettingDefault → PlainCode
  | text value => std ["string", "String", "from"] ++ parens [stringLiteral value]
  | shared type => std ["sync", "Arc", "new"] ++ parens (defaultOf type)

/-- A statement of a constructor. It names a field of the builder, or what stands for it when it was
not set; or it names a converter that a method of the factory makes, with the trait that the
converter has and the kind that an error tells of when there is none. -/
inductive Statement where
  | setting (name : String) (default : SettingDefault)
  | converter (name traitName method variant : String) (type : TypeExpr)

/-- The statement that has a converter made. -/
def ConverterField.initializer (f : ConverterField) : Statement :=
  .converter f.name f.use.kind.traitName f.use.kind.factoryMethod f.use.kind.variant f.use.type

/-- A statement as code. -/
def Statement.code : Statement → PlainCode
  | setting name default =>
    ["let", name, "=", "builder", ".", name, ".", "unwrap_or_else"] ++
      parens (piece "| |" ++ default.code) ++ [";"]
  | converter name traitName method variant type =>
    let argument := angles (codeOf type.tokens)
    let missing :=
      runtime ["Error", "missing_converter"] ++ piece ": :" ++ argument ++
        parens (runtime ["ConverterKind", variant])
    ["let", name, ":"] ++ converterCode traitName (codeOf type.tokens) ++ ["="] ++
      std ["sync", "Arc", "from"] ++
      parens (runtime ["ConverterFactory", method] ++ piece ": :" ++ argument ++
        piece "( & * converter_factory ) . ok_or_else" ++ parens (piece "| |" ++ braces missing) ++
        piece "? ,") ++ [";"]

/-! ### Types -/

/-- What the type of a client and its builder are made of. -/
structure ClientType where
  visibility : PlainCode
  implName : String
  builderName : String
  baseUrl : String
  client : PlainCode
  converter : PlainCode
  fields : List ConverterField

namespace ClientType

/-- The types for an interface. -/
def ofInterface (d : InterfaceDescriptor) (plan : ConverterPlan) : ClientType :=
  ⟨codeOf d.item.visibility, d.implName, d.builderName, d.baseUrl, codeOf d.client.tokens,
    codeOf d.converter.tokens, plan.fields⟩

/-- The type of texts. -/
def textType : PlainCode :=
  std ["string", "String"]

/-- The type of something that may be missing. -/
def optionOf (type : PlainCode) : PlainCode :=
  std ["option", "Option"] ++ angles type

/-- The declaration of a field. -/
def fieldCode (name : String) (type : PlainCode) : PlainCode :=
  [name, ":"] ++ type ++ [","]

/-- The fields that every client has. -/
def commonFields (c : ClientType) : List (String × PlainCode) :=
  [("base_url", textType), ("http_client", shared c.client),
    ("converter_factory", shared c.converter)]

/-- The fields of the client. -/
def members (c : ClientType) : List (String × PlainCode) :=
  c.commonFields ++ c.fields.map fun f => (f.name, f.typeCode)

/-- The type of the client. -/
def structCode (c : ClientType) : PlainCode :=
  marked "derive" ["Clone"] ++ c.visibility ++ ["struct", c.implName] ++
    braces (c.members.flatMap fun (name, type) => fieldCode name type)

/-- The type of the builder. -/
def builderCode (c : ClientType) : PlainCode :=
  marked "derive" ["Default"] ++ c.visibility ++ ["struct", c.builderName] ++
    braces (c.commonFields.flatMap fun (name, type) => fieldCode name (optionOf type))

/-- A method of the builder that sets a field. -/
def setter (name : String) (type : PlainCode) (after : PlainCode) : PlainCode :=
  ["pub", "fn", name] ++
    parens (["mut", "self", ",", name, ":", "impl"] ++ std ["convert", "Into"] ++ angles type ++
      after) ++
    piece "- > Self" ++
    braces (["self", ".", name, "="] ++ std ["option", "Option", "Some"] ++
      parens [name, ".", "into", "(", ")"] ++ [";", "self"])

/-- A documentation comment. -/
def documented (text : String) : PlainCode :=
  "#" :: brackets ["doc", "=", stringLiteral text]

/-- What the builder can do. -/
def builderImplCode (c : ClientType) : PlainCode :=
  ["impl", c.builderName] ++ braces (
    documented " 覆盖声明中的 \x60base_url\x60" ++ setter "base_url" textType [] ++
    setter "http_client" (shared c.client) [] ++
    setter "converter_factory" (shared c.converter) [","] ++
    documented
      " 创建客户端；转换器工厂不支持某个用到的类型时返回 \x60Error::MissingConverter\x60" ++
    piece "pub fn build ( self ) - >" ++ runtime ["Result"] ++ angles [c.implName] ++
    braces (c.implName :: piece ": : new ( self )"))

/-- The statements of the constructor: one for each setting, and then one for each converter. -/
def constructor (c : ClientType) : List Statement :=
  [.setting "base_url" (.text c.baseUrl), .setting "http_client" (.shared c.client),
    .setting "converter_factory" (.shared c.converter)] ++ c.fields.map ConverterField.initializer

/-- The fields of the client that are filled in the end, each from the name that it has. -/
def filled (c : ClientType) : List String :=
  ["base_url", "http_client", "converter_factory"] ++ c.fields.map ConverterField.name

/-- A method that gives a field out. -/
def getter (name : String) (type value : PlainCode) : PlainCode :=
  ["pub", "fn", name] ++ piece "( & self ) - > &" ++ type ++ braces value

/-- What the client can do beside the interface. -/
def implCode (c : ClientType) : PlainCode :=
  ["impl", c.implName] ++ braces (
    piece "pub fn builder ( ) - >" ++ [c.builderName] ++ braces (defaultOf [c.builderName]) ++
    piece "fn new" ++ parens ["builder", ":", c.builderName] ++ piece "- >" ++
    runtime ["Result"] ++ angles ["Self"] ++ braces (
      c.constructor.flatMap Statement.code ++
      runtime ["log", "debug"] ++ ["!"] ++
      parens [stringLiteral "\x7b\x7d created for \x7b:?\x7d", ",", stringLiteral c.implName, ",",
        "base_url"] ++ [";"] ++
      std ["result", "Result", "Ok"] ++
        parens ("Self" :: braces (c.filled.flatMap fun name => [name, ","]))) ++
    getter "base_url" ["str"] (piece "& self . base_url") ++
    getter "http_client" (shared c.client) (piece "& self . http_client") ++
    getter "converter_factory" (shared c.converter) (piece "& self . converter_factory"))

end ClientType

end RestClient
