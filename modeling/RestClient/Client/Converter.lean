import RestClient.Client.ConverterPlan
import RestClient.Client.TypeSchema
import RestClient.Http.Message

/-!
# Converters

What converters do when a client runs, and what makes them. A value is known by its content. The
JSON factory makes a text of the JSON value of a value, where a string stands without its quotes; a
body of the JSON text of a value; and a value of a JSON text.

## Main definitions

- `ConverterKind.Function` — what a converter of a kind does
- `ConverterFactory` — what makes converters
- `ConverterFactory.json`, `ConverterFactory.nothing` — the factory for JSON, and one that makes
  none
- `ConverterFactory.restrict` — a factory for some kinds only
-/

namespace RestClient

open Code (TypeExpr)
open Http (Failure RequestBody ResponseBody)
open Json (Content Definitions Schema)

/-- What a converter of a kind does. -/
abbrev ConverterKind.Function : ConverterKind → Type
  | .string => Content → Except Failure String
  | .requestBody => Content → Except Failure RequestBody
  | .responseBody => ResponseBody → Except Failure Content

/-- A converter of a kind that fails on everything. -/
def ConverterKind.failing (f : Failure) : (kind : ConverterKind) → kind.Function
  | .string => fun _ => .error f
  | .requestBody => fun _ => .error f
  | .responseBody => fun _ => .error f

/-! ### JSON -/

/-- The failure of a conversion from or to JSON. -/
def jsonFailure : Failure :=
  .conversion .json

/-- The text of a value by way of its JSON value: a string as it is, any other value written. -/
def jsonString (c : Content) : Except Failure String :=
  match c.value? with
  | some (.string s) => .ok s
  | some v => .ok v.render
  | none => .error jsonFailure

/-- The JSON text of a value as a body. -/
def jsonBody (c : Content) : Except Failure RequestBody :=
  match c.render? with
  | some text => .ok (.json text)
  | none => .error jsonFailure

/-- The value of a type that a body is the JSON text of. -/
def jsonValue (types : Definitions) (s : Schema) (body : ResponseBody) : Except Failure Content :=
  match s.read? types body.octets with
  | some c => .ok c
  | none => .error jsonFailure

/-! ### Factories -/

/-- What makes the converters of a client, if it can. -/
structure ConverterFactory where
  make? : (kind : ConverterKind) → TypeExpr → Option kind.Function

namespace ConverterFactory

/-- The factory that makes no converter. -/
def nothing : ConverterFactory :=
  ⟨fun _ _ => none⟩

/-- The factory for JSON, with the types that have names. It reads the types that have a schema. -/
def json (types : Definitions) : ConverterFactory :=
  ⟨fun kind t =>
    match kind with
    | .string => some jsonString
    | .requestBody => some jsonBody
    | .responseBody => (Schema.ofType? types t).map (jsonValue types)⟩

/-- A factory for some kinds only. -/
def restrict (kinds : ConverterKind → Bool) (f : ConverterFactory) : ConverterFactory :=
  ⟨fun kind t => if kinds kind then f.make? kind t else none⟩

end ConverterFactory

end RestClient
