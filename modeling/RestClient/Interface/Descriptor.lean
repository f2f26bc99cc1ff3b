import RestClient.Code.Trait
import RestClient.Interface.HeadersAttribute
import RestClient.Interface.ValueShape

/-!
# Descriptors

What the analysis of a method and of an interface finds out, ready for a client to be made of it.

## Main definitions

- `UrlSource`, `ReturnShape` — where the address comes from, and how results are delivered
- `ParameterDescriptor`, `CallbackDescriptor`, `MethodDescriptor` — methods
- `InterfaceDescriptor` — interfaces
-/

namespace RestClient

open Code (Span TypeExpr Attribute Signature TraitDecl)

/-- Where the address of a request comes from: a template in the marker of the verb, or a parameter
by its name. -/
inductive UrlSource where
  | template (text : String) (span : Span)
  | parameter (name : String)
  deriving DecidableEq, Repr

/-- How the result of a method is delivered: nothing, a value or a value with status and headers to
a caller who waits; to a callback; or as a stream that yields one element. -/
inductive ReturnShape where
  | void
  | value (type : TypeExpr)
  | info (type : TypeExpr)
  | callback (type : TypeExpr)
  | reactive (item : TypeExpr) (withInfo boxed : Bool)

namespace ReturnShape

/-- The name of a shape. -/
def text : ReturnShape → String
  | void => "Void"
  | value _ => "SyncValue"
  | info _ => "SyncHttpInfo"
  | callback _ => "Callback"
  | reactive .. => "Reactive"

/-- The type that the body of a response becomes. -/
def responseType? : ReturnShape → Option TypeExpr
  | void => none
  | value t | info t | callback t | reactive t _ _ => some t

end ReturnShape

/-- A parameter that contributes to the request. -/
structure ParameterDescriptor where
  name : String
  type : TypeExpr
  role : Role
  shape : ValueShape
  valueType : TypeExpr
  span : Span

/-- The parameter that receives the result. -/
structure CallbackDescriptor where
  name : String
  item : TypeExpr

/-- A method: its signature without markers, its attributes that are no markers, and what its
markers and parameters say. -/
structure MethodDescriptor where
  signature : Signature
  attributes : List Attribute
  verb : Verb
  url : UrlSource
  encoding : Encoding
  headers : List PlacedHeader
  parameters : List ParameterDescriptor
  returns : ReturnShape
  callback : Option CallbackDescriptor

namespace MethodDescriptor

/-- The name of a method. -/
def name (m : MethodDescriptor) : String :=
  m.signature.name

/-- The template of the address, empty where a parameter gives the address. -/
def template (m : MethodDescriptor) : String :=
  match m.url with
  | .template text _ => text
  | .parameter _ => ""

/-- The names of the parameters and of the callback. -/
def parameterNames (m : MethodDescriptor) : List String :=
  m.parameters.map ParameterDescriptor.name ++ (m.callback.map CallbackDescriptor.name).toList

end MethodDescriptor

/-- An interface: the trait without the markers of its methods, the names of what is generated, and
the methods. -/
structure InterfaceDescriptor where
  item : TraitDecl
  implName : String
  builderName : String
  baseUrl : String
  client : TypeExpr
  converter : TypeExpr
  component : ComponentModel
  componentSpan : Span
  methods : List MethodDescriptor

end RestClient
