import RestClient.Code.Literal
import RestClient.Interface.ClientConfig
import RestClient.Interface.MethodAnalysis

/-!
# Analysis of interfaces

A trait becomes an interface when it has no generics, no conditions and no supertraits, and every
item is a method that can be analyzed. Otherwise every fault is reported: those of the trait first,
then one for each faulty item in the order of the declaration.

## Main definitions

- `traitDiagnostics`, `analyzeItem` — what is wrong with a trait, and with an item
- `cleanItem`, `cleanTrait` — a trait without the markers of its methods
- `InterfaceDescriptor.ofTrait` — the interface of a trait
- `GenerationFailure` — why there is none
-/

namespace RestClient

open Code (Attribute TraitDecl TraitItem)

/-- Why nothing is generated: a name that would be used is no identifier, or the declaration is
rejected. -/
inductive GenerationFailure where
  | illegalName (name : String)
  | rejected (diagnostics : List Diagnostic)
  deriving DecidableEq, Repr

/-- What is wrong with a trait apart from its items. -/
def traitDiagnostics (t : TraitDecl) : List Diagnostic :=
  let anchor := Anchor.on t.nameSpan
  (if t.isGeneric || t.hasWhere then
    [.declaration .genericTrait (anchor.withMark (Code.spanOf t.generics))] else []) ++
  (if t.supertraits.isEmpty then [] else
    [.declaration .supertraits (anchor.withMark (Code.spanOf t.supertraits))])

/-- The descriptor of an item that is a method without a body. -/
def analyzeItem (item : TraitItem) : Except Diagnostic MethodDescriptor :=
  match item with
  | .other _ => broken .notMethod (.on item.span)
  | .method m =>
    match m.body with
    | some body => broken .defaultBody ((Anchor.on m.signature.nameSpan).withMark body)
    | none => analyzeMethod m

/-- The descriptors of the items, and what is wrong with the others. -/
def analyzeItems : List TraitItem → List MethodDescriptor × List Diagnostic
  | [] => ([], [])
  | item :: rest =>
    let (methods, diagnostics) := analyzeItems rest
    match analyzeItem item with
    | .ok m => (m :: methods, diagnostics)
    | .error d => (methods, d :: diagnostics)

/-- An item without markers. -/
def cleanItem : TraitItem → TraitItem
  | .method m =>
    .method { m with
      attributes := foreignAttributes m.attributes, signature := cleanSignature m.signature }
  | item => item

/-- A trait without the markers of its methods. -/
def cleanTrait (t : TraitDecl) : TraitDecl :=
  { t with items := t.items.map cleanItem }

/-- The name of the type that implements a trait. -/
def implementationName (config : ClientConfig) (t : TraitDecl) : String :=
  Code.plainName t.name ++ config.suffix

/-- The interface of a trait. -/
def InterfaceDescriptor.ofTrait (config : ClientConfig) (t : TraitDecl) :
    Except GenerationFailure InterfaceDescriptor :=
  let implName := implementationName config t
  let (methods, diagnostics) := analyzeItems t.items
  if !Code.isIdentifier implName then .error (.illegalName implName)
  else
    match traitDiagnostics t ++ diagnostics with
    | [] =>
      .ok ⟨cleanTrait t, implName, implName ++ "Builder", config.baseUrl, config.client,
        config.converter, config.component, config.componentSpan, methods⟩
    | found => .error (.rejected found)

end RestClient
