/-!
# Kinds of converters

What converters do, with the names that a kind has in messages and in generated code.

## Main definitions

- `ConverterKind` — the kinds
-/

namespace RestClient

/-- What a converter does: a value to a text, a value to a body, or a body to a value. -/
inductive ConverterKind where
  | string
  | requestBody
  | responseBody
  deriving DecidableEq, Repr

namespace ConverterKind

/-- The name of a kind in messages. -/
def text : ConverterKind → String
  | string => "string"
  | requestBody => "request body"
  | responseBody => "response body"

/-- The name of a kind in the names of fields. -/
def stem : ConverterKind → String
  | string => "string"
  | requestBody => "request_body"
  | responseBody => "response_body"

/-- The name of a kind in generated code. -/
def variant : ConverterKind → String
  | string => "String"
  | requestBody => "RequestBody"
  | responseBody => "ResponseBody"

/-- The trait of the converters of a kind. -/
def traitName (kind : ConverterKind) : String :=
  kind.variant ++ "Converter"

/-- The method of a factory that makes converters of a kind. -/
def factoryMethod (kind : ConverterKind) : String :=
  kind.stem ++ "_converter"

end ConverterKind

end RestClient
