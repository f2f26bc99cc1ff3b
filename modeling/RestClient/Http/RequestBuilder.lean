import RestClient.Http.Message
import RestClient.Interface.Template
import RestClient.Url.Validity

/-!
# Building requests

A builder takes the contributions to a request in any order and makes the request of them: it puts
the values of paths into the template, resolves the address against the base, and adds the query
before the fragment. The address has to be a URL.

## Main definitions

- `RequestBuilder` — what has been contributed
- `Contribution` — one contribution, with `RequestBuilder.add`
- `RequestBuilder.build` — the request
-/

namespace RestClient.Http

/-- What has been contributed to a request. -/
structure RequestBuilder where
  verb : Verb
  baseUrl : String
  template : String
  encoding : Encoding
  paths : List (List Char × List Char)
  query : List (List Char)
  headers : Headers
  fields : List (List Char)
  parts : List Part
  body : Option RequestBody

/-- One contribution to a request. `encoded` says that a text is not to be escaped. -/
inductive Contribution where
  | url (value : String)
  | path (name value : String) (encoded : Bool)
  | query (name value : String) (encoded : Bool)
  | header (name value : String)
  | field (name value : String) (encoded : Bool)
  | part (name : String) (body : RequestBody)
  | body (body : RequestBody)
  deriving DecidableEq, Repr

/-- The failure of a value that would leave its place in a path. -/
def traversal (name value : String) : Failure :=
  .rule ("@Path parameters shouldn't perform path traversal ('.' or '..'): " ++ name ++ " is " ++
    value)

namespace RequestBuilder

/-- A builder to which nothing has been contributed. -/
def new (verb : Verb) (baseUrl template : String) (encoding : Encoding) : RequestBuilder :=
  ⟨verb, baseUrl, template, encoding, [], [], [], [], [], none⟩

/-- A builder with one more contribution. -/
def add (b : RequestBuilder) : Contribution → Except Failure RequestBuilder
  | .url value => .ok { b with template := value }
  | .path name value encoded =>
    if !encoded && isTraversal value then .error (traversal name value)
    else .ok { b with paths := b.paths ++ [(name.toList, encodePathValue value encoded)] }
  | .query name value encoded =>
    .ok { b with query := b.query ++ [encodePair name value encoded] }
  | .header name value => .ok { b with headers := b.headers ++ [(name, value)] }
  | .field name value encoded =>
    .ok { b with fields := b.fields ++ [encodePair name value encoded] }
  | .part name body => .ok { b with parts := b.parts ++ [⟨name, body⟩] }
  | .body body => .ok { b with body := some body }

/-- The address without the query that was contributed. -/
def address (b : RequestBuilder) : List Char :=
  resolve b.baseUrl.toList (Template.substitute b.template.toList b.paths)

/-- An address with pairs at the end of its query. -/
def withQuery (pairs : List (List Char)) (address : List Char) : List Char :=
  if pairs.isEmpty then address
  else
    let front := address.takeWhile (· != '#')
    let fragment := address.dropWhile (· != '#')
    front ++ (if front.contains '?' then '&' else '?') :: ['&'].intercalate pairs ++ fragment

/-- The address of the request. -/
def url (b : RequestBuilder) : List Char :=
  withQuery b.query b.address

/-- What the request carries: the fields, the parts or the body, as the encoding says. -/
def payload (b : RequestBuilder) : Payload :=
  match b.encoding with
  | .formUrlEncoded => .body (.form (String.ofList (['&'].intercalate b.fields)))
  | .multipart => .multipart b.parts
  | .none => (b.body.map Payload.body).getD .empty

/-- The request. -/
def build (b : RequestBuilder) : Except Failure Request :=
  match Url.fault? b.url with
  | some fault => .error (.invalidUrl (String.ofList b.url) fault)
  | none => .ok ⟨b.verb, String.ofList b.url, b.headers, b.payload⟩

end RequestBuilder

end RestClient.Http
