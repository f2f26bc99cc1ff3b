import RestClient.Client.ConverterKind
import RestClient.Client.FreshName
import RestClient.Code.Literal
import RestClient.Interface.Descriptor
import RestClient.Text.SnakeCase

/-!
# Converters of a client

The converters that a client needs, one for each kind and type in the order of first use, each with
a field of its own. Text, octets and the empty result need none.

## Main definitions

- `BodyForm`, `ResponseForm` — how values become bodies, and bodies become values
- `needs` — the converters that a method uses
- `ConverterPlan` — the fields, with `ConverterPlan.build` and `ConverterPlan.field?`
-/

namespace RestClient

open Code (TypeExpr PlainCode)

/-! ### Forms of values -/

/-- How a value becomes a body: octets as they are, a text, or by a converter. -/
inductive BodyForm where
  | octets
  | text
  | converted
  deriving DecidableEq, Repr

/-- How a body becomes a value: not at all, as a text, as its octets, or by a converter. -/
inductive ResponseForm where
  | unit
  | text
  | octets
  | converted
  deriving DecidableEq, Repr

/-- The form in which a type becomes a body. -/
def bodyForm (t : TypeExpr) : BodyForm :=
  if t.belongsTo .bytes then .octets
  else if t.belongsTo .str then .text
  else .converted

/-- The form in which a body becomes a type. -/
def responseForm (t : TypeExpr) : ResponseForm :=
  if t.belongsTo .unit then .unit
  else if TypeExpr.same t (.named "String" []) then .text
  else if TypeExpr.same t (.named "Vec" [.octet]) then .octets
  else .converted

/-- The converter that a parameter needs for each contribution. -/
def parameterConverter? (p : ParameterDescriptor) : Option ConverterKind :=
  match p.role.kind with
  | .url => none
  | .body | .part | .partMap =>
    if bodyForm p.valueType = .converted then some .requestBody else none
  | _ => if p.valueType.belongsTo .str then none else some .string

/-- A converter by its kind and the type that it converts. -/
structure ConverterUse where
  kind : ConverterKind
  type : TypeExpr

/-- The converter that a parameter uses. -/
def parameterNeed? (p : ParameterDescriptor) : Option ConverterUse :=
  (parameterConverter? p).map fun kind => ⟨kind, p.valueType⟩

/-- The converter that a result uses. -/
def responseNeed? (r : ReturnShape) : Option ConverterUse :=
  (r.responseType?.filter fun t => responseForm t == .converted).map fun t => ⟨.responseBody, t⟩

/-- The converters that a method uses: those of its parameters, then that of its result. -/
def needs (m : MethodDescriptor) : List ConverterUse :=
  m.parameters.filterMap parameterNeed? ++ (responseNeed? m.returns).toList

/-! ### Keys and names -/

/-- The punctuation character that the next tree follows without a gap. -/
def jointChar? : Code.TokenTree → Option Char
  | .punct c true _ => some c
  | _ => none

mutual

/-- The words of a tree in the arguments of a macro. -/
def verbatimTree : Code.TokenTree → PlainCode
  | .ident text _ | .lifetime text _ | .literal text _ => [text]
  | .punct c _ _ => [c.toString]
  | .group d trees _ => d.opening.toString :: verbatimTrees trees ++ [d.closing.toString]

/-- The words of the arguments of a macro. Nothing is made of them, so that punctuation is one word
where it is written without gaps. -/
def verbatimTrees : Code.Tokens → PlainCode
  | [] => []
  | tree :: rest =>
    match jointChar? tree, verbatimTrees rest with
    | some c, word :: words => (c.toString ++ word) :: words
    | _, words => verbatimTree tree ++ words

end

/-- How much of the call of a macro stands before a tree: its name, its name and the mark behind it,
or none of it. -/
inductive CallFront where
  | nothing
  | name
  | mark
  deriving DecidableEq

/-- How much of the call of a macro stands before the tree behind another one. -/
def CallFront.after : CallFront → Code.TokenTree → CallFront
  | _, .ident text _ => if Code.Parser.keywords.contains text then nothing else name
  | name, .punct '!' _ _ => mark
  | _, _ => nothing

mutual

/-- The words of a tree, with literals as they are written. Trees that have been read are written
in one way, those of a macro as they were. -/
def rawTree (front : CallFront) : Code.TokenTree → PlainCode
  | .ident text _ | .lifetime text _ | .literal text _ => [text]
  | .punct c _ _ => [c.toString]
  | .group d trees _ =>
    let inner := if front = .mark then verbatimTrees trees else rawTrees .nothing trees
    d.opening.toString :: inner ++ [d.closing.toString]

/-- The words of trees, with literals as they are written. -/
def rawTrees (front : CallFront) : Code.Tokens → PlainCode
  | [] => []
  | tree :: rest => rawTree front tree ++ rawTrees (front.after tree) rest

end

/-- What tells types apart: the words that they are written with. -/
def typeKey (t : TypeExpr) : PlainCode :=
  rawTrees .nothing t.tokens

/-- The beginning of the name of a field for a type: the words of the type in snake case, which has
to start with a letter. -/
def typeStem (t : TypeExpr) : String :=
  match Text.snakeCase (typeKey t).text.toList with
  | [] => "value"
  | c :: cs =>
    if '0' ≤ c && c ≤ '9' then String.ofList ('t' :: c :: cs) else String.ofList (c :: cs)

/-- The names that the fields of a client have besides its converters, and the name of the builder
in its constructor. -/
def reservedFields : List String :=
  ["base_url", "http_client", "converter_factory", "builder"]

/-- The name that the field for a converter gets unless it is taken. -/
def preferredField (u : ConverterUse) : String :=
  typeStem u.type ++ "_" ++ u.kind.stem ++ "_converter"

/-! ### Plans -/

/-- A field of a client with a converter. -/
structure ConverterField where
  name : String
  use : ConverterUse

/-- Whether a field holds the converter of a kind and a type. -/
def ConverterField.serves (f : ConverterField) (u : ConverterUse) : Bool :=
  f.use.kind == u.kind && typeKey f.use.type == typeKey u.type

/-- The converters of a client, and the names that are in use. -/
structure ConverterPlan where
  fields : List ConverterField
  supply : NameSupply

namespace ConverterPlan

/-- A plan without converters. -/
def empty (letters : Letters) : ConverterPlan :=
  ⟨[], ⟨letters, reservedFields⟩⟩

/-- The field that holds a converter. -/
def field? (plan : ConverterPlan) (u : ConverterUse) : Option ConverterField :=
  plan.fields.find? (·.serves u)

/-- The plan with a converter that it may have already. A name that is no identifier is an
error. -/
def add (plan : ConverterPlan) (u : ConverterUse) : Except String ConverterPlan :=
  if (plan.field? u).isSome then .ok plan
  else
    let (name, supply) := plan.supply.allocate (preferredField u)
    if Code.isIdentifier name then .ok ⟨plan.fields ++ [⟨name, u⟩], supply⟩ else .error name

/-- The plan for the methods of a client. -/
def build (letters : Letters) (methods : List MethodDescriptor) : Except String ConverterPlan :=
  (methods.flatMap needs).foldlM add (empty letters)

end ConverterPlan

end RestClient
