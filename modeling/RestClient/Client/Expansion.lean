import RestClient.Client.ClientType
import RestClient.Client.MethodPlan
import RestClient.Interface.InterfaceAnalysis

/-!
# Expansion

From the arguments of the attribute and the item behind it to the generated code: the trait without
its markers, the two types of the client with what they can do, and the implementation of the
trait. Where the declaration is rejected, compile errors stand in place of all code.

## Main definitions

- `ClientPlan` — the converters and the methods of a client, with `ClientPlan.ofInterface`
- `ClientPlan.items` — the generated items
- `expand` — the plan for a declaration
- `SourceFile`, `Directory` — the file that the generated code is written to, and where it goes
- `expandInto`, `expandToCode` — the whole
-/

namespace RestClient

open Code (PlainCode Tokens TraitDecl)
open Emission

/-- Why no client is generated for an interface. -/
inductive ClientFailure where
  | illegalName (name : String)
  | refused (diagnostic : Diagnostic)
  deriving DecidableEq, Repr

/-- A client's failure among all failures. -/
def ClientFailure.toFailure : ClientFailure → GenerationFailure
  | illegalName name => .illegalName name
  | refused d => .rejected [d]

/-- What is generated for an interface: its converters and its methods. -/
structure ClientPlan where
  interface : InterfaceDescriptor
  converters : ConverterPlan
  methods : List MethodPlan

namespace ClientPlan

/-- The plans of methods, each with local names of its own; the letters go from one to the next. -/
def planMethods (converters : ConverterPlan) (traitName : String) :
    Letters → List MethodDescriptor → Except Diagnostic (List MethodPlan)
  | _, [] => .ok []
  | letters, m :: rest => do
    let (locals, letters) := Locals.allocate letters m.parameterNames
    let method ← MethodPlan.ofMethod converters traitName locals m
    let methods ← planMethods converters traitName letters rest
    return method :: methods

/-- The plan for an interface. Of the component models only the standalone one is known. -/
def ofInterface (d : InterfaceDescriptor) : Except ClientFailure ClientPlan :=
  if d.component ≠ .standalone then
    .error (.refused ⟨.unimplemented,
      "component model \x60" ++ d.component.text ++ "\x60 is not implemented",
      .on d.componentSpan⟩)
  else
    match ConverterPlan.build .initial d.methods with
    | .error name => .error (.illegalName name)
    | .ok converters =>
      match planMethods converters d.item.name converters.supply.letters d.methods with
      | .error diagnostic => .error (.refused diagnostic)
      | .ok methods => .ok ⟨d, converters, methods⟩

/-- The types of the client. -/
def clientType (p : ClientPlan) : ClientType :=
  .ofInterface p.interface p.converters

/-- The trait, which may have asynchronous methods. -/
def traitCode (p : ClientPlan) : PlainCode :=
  marked "allow" ["async_fn_in_trait"] ++ p.interface.item.code

/-- The implementation of the trait. -/
def traitImplCode (p : ClientPlan) : PlainCode :=
  ["impl", p.interface.item.name, "for", p.interface.implName] ++
    braces (p.methods.flatMap MethodPlan.code)

/-- The generated items. -/
def items (p : ClientPlan) : List PlainCode :=
  [p.traitCode, p.clientType.structCode, p.clientType.builderCode, p.clientType.builderImplCode,
    p.clientType.implCode, p.traitImplCode]

end ClientPlan

/-! ### Plans of declarations -/

/-- The trait that some tokens write. -/
def readTrait (item : Tokens) : Except Diagnostic TraitDecl :=
  match TraitDecl.parse item with
  | .ok t => .ok t
  | .error fault => .error (.declaration .notTrait (.on fault.span))

/-- The plan for the arguments of an attribute and the item behind it. -/
def expand (args item : Tokens) : Except GenerationFailure ClientPlan :=
  match ClientConfig.parse args with
  | .error d => .error (.rejected [d])
  | .ok config =>
    match readTrait item with
    | .error d => .error (.rejected [d])
    | .ok t =>
      match InterfaceDescriptor.ofTrait config t with
      | .error f => .error f
      | .ok d =>
        match ClientPlan.ofInterface d with
        | .error f => .error f.toFailure
        | .ok plan => .ok plan

/-! ### Files -/

/-- A file with the items generated for an interface. -/
structure SourceFile where
  name : String
  items : List PlainCode
  deriving DecidableEq, Repr

namespace SourceFile

/-- The file for a plan, named for the trait. What is written has to be code: the name of the
implementing type may not be a keyword. -/
def ofPlan (p : ClientPlan) : Except Diagnostic SourceFile :=
  let name := p.interface.implName
  if Code.Parser.keywords.contains name then
    .error (.internal ("generated code does not parse: expected identifier, found keyword \x60" ++
      name ++ "\x60"))
  else
    .ok ⟨String.ofList (Text.snakeCase p.interface.item.name.toList) ++ ".rs", p.items⟩

/-- The file for an interface. -/
def ofInterface (d : InterfaceDescriptor) : Except ClientFailure SourceFile :=
  match ClientPlan.ofInterface d with
  | .error f => .error f
  | .ok plan =>
    match ofPlan plan with
    | .ok file => .ok file
    | .error diagnostic => .error (.refused diagnostic)

/-- The report that a file could not be written into a directory. -/
def writeFailure (f : SourceFile) (directory reason : String) : Diagnostic :=
  .internal ("failed to write " ++ directory ++ "/" ++ f.name ++ ": " ++ reason)

end SourceFile

/-- A directory for generated files: its path, and the reason for which it takes no file. -/
structure Directory where
  path : String
  refusal? : SourceFile → Option String

/-- The file for a plan, written into a directory. -/
def Directory.write (directory : Directory) (p : ClientPlan) : Except Diagnostic SourceFile := do
  let file ← SourceFile.ofPlan p
  match directory.refusal? file with
  | none => return file
  | some reason => throw (file.writeFailure directory.path reason)

/-! ### Code -/

/-- The plan for the arguments of an attribute and the item behind it. Where there is a directory
for files, there is no plan unless its file can be written. -/
def expandInto (directory : Option Directory) (args item : Tokens) :
    Except GenerationFailure ClientPlan :=
  match expand args item, directory with
  | .ok plan, some d =>
    match d.write plan with
    | .ok _ => .ok plan
    | .error diagnostic => .error (.rejected [diagnostic])
  | outcome, _ => outcome

/-- The code that takes the place of a declaration: the generated items, or compile errors. The
error is a name that is no identifier. -/
def expandToCode (args item : Tokens) (directory : Option Directory := none) :
    Except String PlainCode :=
  match expandInto directory args item with
  | .ok plan => .ok plan.items.flatten
  | .error (.rejected diagnostics) => .ok (compileErrors diagnostics)
  | .error (.illegalName name) => .error name

end RestClient
