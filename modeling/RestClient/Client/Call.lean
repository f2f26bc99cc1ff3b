import RestClient.Client.Contribution
import RestClient.Client.Expansion
import RestClient.Http.Delivery

/-!
# Clients and calls

A client is built from settings, each of which has a default, and from the plan of its interface;
every converter of the plan has to be made when it is built. A call of a method builds the request
and delivers the result in the way that the method says.

## Main definitions

- `ClientBuilder`, `Setting` — the settings
- `Client` — a client, with `Client.build`
- `Call` — what a call gives to the caller
- `Client.call` — a call of a method
-/

namespace RestClient

open Code (TypeExpr)
open Http (BodyReader Callback Exchange Failure HttpInfo ResponseBody ResponseStream Transport)
open Json (Content)

/-! ### Clients -/

/-- A converter in the field that it was made for. -/
structure HeldConverter where
  field : ConverterField
  convert : field.use.kind.Function

/-- The converter that a factory makes for a field. A failure tells the type by a name, and how
types are named is left open. -/
def ConverterFactory.hold (typeName : TypeExpr → String) (f : ConverterFactory)
    (field : ConverterField) : Except Failure HeldConverter :=
  match f.make? field.use.kind field.use.type with
  | some convert => .ok ⟨field, convert⟩
  | none => .error (.missingConverter field.use.kind (typeName field.use.type))

/-- A converter as one of a kind. -/
def HeldConverter.as? (c : HeldConverter) (kind : ConverterKind) : Option kind.Function :=
  if h : c.field.use.kind = kind then some (h ▸ c.convert) else none

/-- What can be set before a client is built. -/
inductive Setting (σ : Type) where
  | baseUrl (value : String)
  | transport (value : Transport σ)
  | converterFactory (value : ConverterFactory)

/-- The settings of a client that is to be built. -/
structure ClientBuilder (σ : Type) where
  baseUrl : Option String
  transport : Option (Transport σ)
  converterFactory : Option ConverterFactory

/-- A client: where its requests start from, what sends them, and its converters. -/
structure Client (σ : Type) where
  baseUrl : String
  transport : Transport σ
  converterFactory : ConverterFactory
  held : List HeldConverter

variable {σ : Type}

namespace ClientBuilder

/-- Nothing is set. -/
def new : ClientBuilder σ :=
  ⟨none, none, none⟩

/-- One more setting; of several for one thing the last counts. -/
def set (b : ClientBuilder σ) : Setting σ → ClientBuilder σ
  | .baseUrl value => { b with baseUrl := some value }
  | .transport value => { b with transport := some value }
  | .converterFactory value => { b with converterFactory := some value }

/-- The client of a plan. The address that the interface declares, and a default transport and
factory, stand for what is not set. -/
def build (plan : ClientPlan) (transport : Transport σ) (factory : ConverterFactory)
    (b : ClientBuilder σ) (typeName : TypeExpr → String := TypeExpr.fullName) :
    Except Failure (Client σ) :=
  let factory := b.converterFactory.getD factory
  (plan.converters.fields.mapM (factory.hold typeName)).map fun held =>
    ⟨b.baseUrl.getD plan.interface.baseUrl, b.transport.getD transport, factory, held⟩

end ClientBuilder

/-- The converter in a field of a client. -/
def Client.converter? (client : Client σ) (kind : ConverterKind) (field : String) :
    Option kind.Function :=
  (client.held.find? fun c => c.field.name == field).bind (·.as? kind)

/-- The converters of a client. A field that the client does not have fails. -/
def Client.converters (client : Client σ) : Converters :=
  fun kind field =>
    (client.converter? kind field).getD (kind.failing (.missingConverter kind field))

/-! ### Calls -/

/-- What a call gives to the caller: a value to wait for, alone or with status and headers; the
notification of a callback; or a stream of one of the two. -/
inductive Call (σ : Type) where
  | value (run : Exchange σ Content)
  | info (run : Exchange σ (HttpInfo Content))
  | callback (run : Callback σ Content → StateM σ Unit)
  | stream (results : ResponseStream σ Content)
  | infoStream (results : ResponseStream σ (HttpInfo Content))

/-- How the body of a response becomes a value. The empty value is null. -/
def ResponsePlan.reader (converters : Converters) : ResponsePlan → BodyReader Content
  | .unit => fun _ => .ok .null
  | .text => fun body => body.text.map .text
  | .octets => fun body => .ok (.ofOctets body.octets)
  | .converted field => converters .responseBody field

/-- A call of a method. -/
def MethodPlan.call (client : Client σ) (arguments : Arguments) (m : MethodPlan) : Call σ :=
  let request := m.request.build client.converters client.baseUrl arguments
  let read := m.response.reader client.converters
  match m.returns with
  | .void => .value (Http.mapResult (fun _ => .null) (Http.awaitUnit client.transport request))
  | .value _ => .value (Http.awaitValue client.transport read request)
  | .info _ => .info (Http.awaitInfo client.transport read request)
  | .callback _ => .callback fun c => Http.notify client.transport read c request
  | .reactive _ true _ => .infoStream (Http.streamInfo client.transport read request)
  | .reactive _ false _ => .stream (Http.streamValue client.transport read request)

/-- The method of a plan with a name. -/
def ClientPlan.method? (plan : ClientPlan) (name : String) : Option MethodPlan :=
  plan.methods.find? fun m => m.signature.name == name

end RestClient
