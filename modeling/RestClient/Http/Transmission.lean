import RestClient.Http.MediaType
import RestClient.Http.Message
import RestClient.Url.Target

/-!
# Transmissions

What a request becomes on its way to a server, and a response on its way back. A request is not sent
unless its address is a URL, its headers can be written, and its parts have media types. The content
type of a body gives way to a header that says another; a multipart payload always says its own.

## Main definitions

- `contentHeaders` — the content type that a payload adds to the headers
- `Transmission` — what is sent, with `transmit`
- `received` — the response that a client sees of what a server answers
-/

namespace RestClient.Http

open Text (Octets)

/-! ### Headers -/

/-- The name of the header with the type of a payload. -/
def contentTypeName : String :=
  "content-type"

/-- Whether a header says the content type. -/
def saysContentType (headers : Headers) : Bool :=
  headers.any fun (name, _) => lowerAsciiText name == contentTypeName

/-- What the content type of a multipart payload starts with; a boundary follows. -/
def multipartType : String :=
  "multipart/form-data; boundary="

/-- The headers that a payload adds to those of the request. -/
def contentHeaders (r : Request) : Headers :=
  match r.payload with
  | .empty => []
  | .body body =>
    if saysContentType r.headers then []
    else body.contentType.toList.map (contentTypeName, ·)
  | .multipart _ => [(contentTypeName, multipartType)]

/-- All headers of a request. -/
def sentHeaders (r : Request) : Headers :=
  r.headers ++ contentHeaders r

/-- The name of a header as it is sent: a token in lower case. -/
def headerName? (name : String) : Option String :=
  if name.isEmpty || !name.toList.all isTokenChar then none else some (lowerAsciiText name)

/-- The octets of the value of a header; there may be no control characters but tabs. -/
def headerValue? (value : String) : Option Octets :=
  let octets := Text.octetsOf value
  if octets.all fun b => b == 0x09 || (0x20 ≤ b && b != 0x7f) then some octets else none

/-- A header as it is sent. -/
def writeHeader? (header : String × String) : Option (String × Octets) := do
  return (← headerName? header.1, ← headerValue? header.2)

/-! ### Parts -/

/-- A part as it is sent: the lines of its head and its content. -/
structure SentPart where
  head : List String
  content : Octets
  deriving DecidableEq, Repr

/-- The ASCII characters that are escaped in the name of a part. -/
def escapedInName : List Char :=
  Url.escapedInPath ++ ['/', '%']

/-- The parameter with the name of a part. A name with escapes is marked as such, unless it is one
escaped octet and nothing else. -/
def nameParameter (name : String) : String :=
  let octets := Text.octetsOf name
  let escaped := String.ofList (Text.escapeBy (Url.standsBeside escapedInName) name.toList)
  if escaped == name || octets.length == 1 then "name=\"" ++ escaped ++ "\""
  else "name*=utf-8''" ++ escaped

/-- A part as it is sent. -/
def SentPart.ofPart? (p : Part) : Option SentPart :=
  let disposition := "Content-Disposition: form-data; " ++ nameParameter p.name
  match p.body.contentType with
  | none => some ⟨[disposition], p.body.octets⟩
  | some type => (MediaType.read? type.toList).map fun canonical =>
      ⟨[disposition, "Content-Type: " ++ String.ofList canonical], p.body.octets⟩

/-! ### Requests -/

/-- The content of a request: octets, or parts. -/
inductive SentContent where
  | octets (octets : Octets)
  | parts (parts : List SentPart)
  deriving DecidableEq, Repr

/-- What is sent to a server. -/
structure Transmission where
  verb : Verb
  target : String
  headers : List (String × Octets)
  content : SentContent
  deriving DecidableEq, Repr

/-- The content of a payload. -/
def SentContent.ofPayload? : Payload → Option SentContent
  | .empty => some (.octets [])
  | .body body => some (.octets body.octets)
  | .multipart list => (list.mapM SentPart.ofPart?).map .parts

/-- What is sent for a request, if it can be sent. -/
def transmission? (r : Request) : Option Transmission := do
  let url := r.url.toList
  if (Url.fault? url).isSome then none
  else
    let headers ← (sentHeaders r).mapM writeHeader?
    let content ← SentContent.ofPayload? r.payload
    return ⟨r.verb, String.ofList (Url.target url), headers, content⟩

/-- What is sent for a request, or the failure below HTTP. -/
def transmit (r : Request) : Except Failure Transmission :=
  match transmission? r with
  | some t => .ok t
  | none => .error (.transport .network)

/-! ### Responses -/

/-- The headers that belong to a connection and not to a response. -/
def connectionHeaders : List String :=
  ["connection", "content-length"]

/-- A visible character of ASCII, a space or a tab. -/
def isVisible (c : Char) : Bool :=
  c == '\t' || (' ' ≤ c && c < '\x7f')

/-- The value of a header without the spaces and tabs around it. -/
def trimValue (value : String) : String :=
  let isGap (c : Char) : Bool := c == ' ' || c == '\t'
  String.ofList ((value.toList.dropWhile isGap).reverse.dropWhile isGap).reverse

/-- A header put behind the last one of its name, or at the end. -/
def putHeader (header : String × String) : Headers → Headers
  | [] => [header]
  | other :: rest =>
    if other.1 == header.1 && !rest.any (fun h => h.1 == header.1) then other :: header :: rest
    else other :: putHeader header rest

/-- Headers with those of one name together at the place of the first. -/
def groupHeaders (headers : Headers) : Headers :=
  headers.foldl (fun grouped header => putHeader header grouped) []

/-- The headers that a client sees. -/
def receivedHeaders (headers : Headers) : Headers :=
  let lower := headers.map fun (name, value) => (lowerAsciiText name, trimValue value)
  (groupHeaders lower).filter fun (name, value) =>
    !connectionHeaders.contains name && value.toList.all isVisible

/-- Whether a response has no body, whatever the server would say. -/
def isBodiless (verb : Verb) (status : Nat) : Bool :=
  verb == .head || status == 204 || status == 304

/-- The response that a client sees. -/
def received (verb : Verb) (r : Response) : Response :=
  .of r.status (receivedHeaders r.headers) (if isBodiless verb r.status then [] else r.body.octets)

end RestClient.Http
