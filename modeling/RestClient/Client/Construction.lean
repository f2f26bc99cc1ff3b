import RestClient.Client.Call

/-!
# Construction

The constructor of a client as it runs, statement by statement. A statement gives a name to a value,
and a name stands for what it was given to last. Statements, the fields of the client and the names
that fill them are matched by nothing but their spelling: where something is named that there is
not, or that has another type, the constructor has no meaning.

## Main definitions

- `Bound`, `Scope` — what names stand for
- `Statement.run` — what a statement does
- `ClientType.fill` — a client from what names stand for
- `ClientType.construct` — the constructor
-/

namespace RestClient

open Code (PlainCode TypeExpr codeOf)
open Http (Failure Transport)

variable {σ : Type}

/-! ### Values -/

/-- What a name stands for. A converter comes with its kind and the code of its type. -/
inductive Bound (σ : Type) where
  | builder (value : ClientBuilder σ)
  | text (value : String)
  | transport (value : Transport σ)
  | factory (value : ConverterFactory)
  | converter (kind : ConverterKind) (type : PlainCode) (convert : kind.Function)

/-- Names with what they stand for, the latest first. -/
abbrev Scope (σ : Type) :=
  List (String × Bound σ)

/-- The type of a value. -/
def Bound.typeCode (c : ClientType) : Bound σ → PlainCode
  | builder _ => [c.builderName]
  | text _ => ClientType.textType
  | transport _ => Emission.shared c.client
  | factory _ => Emission.shared c.converter
  | converter kind type _ => converterCode kind.traitName type

/-- Why code gives nothing: it has no meaning, or it fails. -/
inductive CodeFault where
  | meaningless
  | failed (failure : Failure)
  deriving DecidableEq, Repr

/-- What the constructor of a client finds: the two types, the default values of the types of
transports and factories that they name, and the names that types have in errors. -/
structure Premises (σ : Type) where
  type : ClientType
  transport : Transport σ
  factory : ConverterFactory
  typeName : TypeExpr → String

/-! ### Statements -/

/-- A field of the builder, or what stands for it if it is not set. The default has to be of the
type that the field has. -/
def ClientBuilder.setting? (b : ClientBuilder σ) (p : Premises σ) (name : String)
    (default : SettingDefault) : Option (Bound σ) :=
  match name, default with
  | "base_url", .text value => some (.text (b.baseUrl.getD value))
  | "http_client", .shared type =>
    if type = p.type.client then some (.transport (b.transport.getD p.transport)) else none
  | "converter_factory", .shared type =>
    if type = p.type.converter then some (.factory (b.converterFactory.getD p.factory)) else none
  | _, _ => none

/-- The kind that has a name, among names of one sort. -/
def ConverterKind.named? (nameOf : ConverterKind → String) (name : String) :
    Option ConverterKind :=
  [string, requestBody, responseBody].find? fun kind => nameOf kind == name

/-- What a statement does: a name more, or an end of it all. -/
def Statement.run (p : Premises σ) (scope : Scope σ) :
    Statement → Except CodeFault (Scope σ)
  | setting name default =>
    match scope.lookup "builder" with
    | some (.builder b) =>
      match b.setting? p name default with
      | some value => .ok ((name, value) :: scope)
      | none => .error .meaningless
    | _ => .error .meaningless
  | converter name traitName method variant type =>
    match scope.lookup "converter_factory", ConverterKind.named? ConverterKind.factoryMethod method,
        ConverterKind.named? ConverterKind.variant variant with
    | some (.factory f), some kind, some told =>
      if kind.traitName = traitName then
        match f.make? kind type with
        | some convert => .ok ((name, .converter kind (codeOf type.tokens) convert) :: scope)
        | none => .error (.failed (.missingConverter told (p.typeName type)))
      else .error .meaningless
    | _, _, _ => .error .meaningless

/-! ### Clients -/

/-- The field of a client that is declared with a name and a type: it is filled with what the name
stands for. -/
def ClientType.fillMember (c : ClientType) (scope : Scope σ) (member : String × PlainCode) :
    Except CodeFault (String × Bound σ) :=
  match scope.lookup member.1 with
  | some value =>
    if value.typeCode c = member.2 then .ok (member.1, value) else .error .meaningless
  | none => .error .meaningless

/-- A client that names are written for: all of its fields, each of them once. -/
def ClientType.fill (c : ClientType) (names : List String) (scope : Scope σ) :
    Except CodeFault (Scope σ) :=
  if names.Nodup ∧ names.Perm (c.members.map Prod.fst) then c.members.mapM (c.fillMember scope)
  else .error .meaningless

/-- The constructor of a client, from a builder to the fields of a client. -/
def ClientType.construct (p : Premises σ) (b : ClientBuilder σ) :
    Except CodeFault (Scope σ) := do
  let scope ← p.type.constructor.foldlM (Statement.run p) [("builder", .builder b)]
  p.type.fill p.type.filled scope

/-- A converter in its field. -/
def HeldConverter.entry (c : HeldConverter) : String × Bound σ :=
  (c.field.name, .converter c.field.use.kind (codeOf c.field.use.type.tokens) c.convert)

/-- The fields of a client. -/
def Client.entries (client : Client σ) : Scope σ :=
  [("base_url", .text client.baseUrl), ("http_client", .transport client.transport),
    ("converter_factory", .factory client.converterFactory)] ++
    client.held.map HeldConverter.entry

end RestClient
