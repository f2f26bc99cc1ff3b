import RestClient.Client.Converter
import RestClient.Client.RequestPlan
import RestClient.Http.RequestBuilder

/-!
# Contributions

What the plan of a request does when it runs. The literal headers come first; then each parameter,
in the order of declaration, contributes once for each value of its argument. The first value that
cannot be converted is the failure of the request.

## Main definitions

- `Argument` — what is handed over for a parameter
- `Converters` — the converters of a running client
- `RequestPlan.contributions` — everything that a request is made of
- `RequestPlan.build` — the request
-/

namespace RestClient

open Code (TypeExpr)
open Http (Contribution Failure Request RequestBody RequestBuilder)
open Json (Content Definitions Schema Value)

/-- The converters of a running client, by their kinds and the names of their fields. -/
abbrev Converters := (kind : ConverterKind) → String → kind.Function

/-! ### Arguments -/

/-- What is handed over for a parameter, in the shape of the parameter. -/
inductive Argument where
  | single (value : Content)
  | optional (value : Option Content)
  | repeated (values : List Content)
  | map (entries : List (String × Content))

namespace Argument

/-- The shape of an argument. -/
def shape : Argument → ValueShape
  | single _ => .single
  | optional _ => .optional
  | repeated _ => .repeated
  | map _ => .map

/-- The values of an argument, those of a map with their keys. -/
def values : Argument → List (Option String × Content)
  | single c => [(none, c)]
  | optional c => c.toList.map (none, ·)
  | repeated cs => cs.map (none, ·)
  | map entries => entries.map fun (key, c) => (some key, c)

/-- The entries of a map with texts as keys. -/
def textEntries? : Content → Option (List (String × Content))
  | .members entries => entries.mapM fun (key, c) => key.text?.map (·, c)
  | _ => none

/-- The argument that a JSON value stands for, made of values of a type with a schema. -/
def ofValue? (types : Definitions) (shape : ValueShape) (s : Schema) (v : Value) :
    Option Argument :=
  match shape with
  | .single => (s.ofValue? types v).map single
  | .optional =>
    match v with
    | .null => some (optional none)
    | v => (s.ofValue? types v).map fun c => optional (some c)
  | .repeated =>
    match (Schema.list s).ofValue? types v with
    | some (.list cs) => some (repeated cs)
    | _ => none
  | .map => ((Schema.map .text s).ofValue? types v).bind fun c => (textEntries? c).map map

end Argument

/-- Arguments by the names of the parameters. -/
abbrev Arguments := String → Argument

/-! ### Conversions -/

/-- A value as a text. -/
def Conversion.toText (converters : Converters) (conversion : Conversion) (c : Content) :
    Except Failure String :=
  match conversion with
  | .string field => converters .string field c
  | _ => .ok c.asText

/-- A value as a body. -/
def Conversion.toBody (converters : Converters) (conversion : Conversion) (c : Content) :
    Except Failure RequestBody :=
  match conversion with
  | .body field => converters .requestBody field c
  | .octets => .ok (.octetStream c.asOctets)
  | _ => .ok (.text c.asText)

/-! ### Contributions -/

/-- What a parameter contributes with one value under a name. -/
def ParameterPlan.contribute (converters : Converters) (p : ParameterPlan) (name : String)
    (c : Content) : Except Failure Contribution :=
  let text := p.conversion.toText converters c
  let body := p.conversion.toBody converters c
  let encoded := p.role.encoded
  match p.role.kind with
  | .url => text.map .url
  | .path => text.map fun s => .path name s encoded
  | .query | .queryMap => text.map fun s => .query name s encoded
  | .field | .fieldMap => text.map fun s => .field name s encoded
  | .header | .headerMap => text.map fun s => .header name s
  | .part | .partMap => body.map fun b => .part name b
  | .body => body.map .body

/-- What a parameter contributes: an entry of a map under its key, any other value under the name
of the role. -/
def ParameterPlan.contributions (converters : Converters) (p : ParameterPlan) (a : Argument) :
    List (Except Failure Contribution) :=
  a.values.map fun (key, c) => p.contribute converters (key.getD (p.role.name?.getD "")) c

namespace RequestPlan

/-- Everything that a request is made of, in order. -/
def contributions (converters : Converters) (arguments : Arguments) (r : RequestPlan) :
    List (Except Failure Contribution) :=
  r.headers.map (fun h => .ok (.header h.name h.value)) ++
    r.parameters.flatMap fun p => p.contributions converters (arguments p.parameter)

/-- The request under a base address. -/
def build (converters : Converters) (baseUrl : String) (arguments : Arguments)
    (r : RequestPlan) : Except Failure Request := do
  let builder ← (r.contributions converters arguments).foldlM
    (fun b contribution => do b.add (← contribution))
    (RequestBuilder.new r.verb baseUrl r.template r.encoding)
  builder.build

end RequestPlan

end RestClient
