import RestClient.Client.FreshName

/-!
# Local names of a generated method

The names that the body of a generated method needs for itself. They avoid the names of the
method's parameters and each other.

## Main definitions

- `Locals` — the names
- `Locals.allocate` — names that collide with nothing
-/

namespace RestClient

/-- The local names of a method. -/
structure Locals where
  builder : String
  request : String
  response : String
  body : String
  httpClient : String
  converter : String
  outcome : String
  info : String
  error : String
  value : String
  key : String
  stream : String
  deriving DecidableEq, Repr

namespace Locals

/-- The names in the order in which they are allocated. -/
def toList (l : Locals) : List String :=
  [l.builder, l.request, l.response, l.body, l.httpClient, l.converter, l.outcome, l.info, l.error,
    l.value, l.key, l.stream]

/-- Names that collide neither with each other nor with those in `parameters`. -/
def allocate (letters : Letters) (parameters : List String) : Locals × Letters :=
  let s : NameSupply := ⟨letters, parameters ++ ["self"]⟩
  let (builder, s) := s.allocate "builder"
  let (request, s) := s.allocate "request"
  let (response, s) := s.allocate "response"
  let (body, s) := s.allocate "body"
  let (httpClient, s) := s.allocate "http_client"
  let (converter, s) := s.allocate "converter"
  let (outcome, s) := s.allocate "outcome"
  let (info, s) := s.allocate "info"
  let (error, s) := s.allocate "error"
  let (value, s) := s.allocate "value"
  let (key, s) := s.allocate "key"
  let (stream, s) := s.allocate "stream"
  (⟨builder, request, response, body, httpClient, converter, outcome, info, error, value, key,
    stream⟩, s.letters)

end Locals

end RestClient
