import RestClient.Http.Address
import RestClient.Http.Failure
import RestClient.Interface.Marker

/-!
# Requests and responses

What is sent and what comes back. A response is a success when its code is from 200 to 299.

## Main definitions

- `RequestBody`, `Part`, `Payload`, `Request` — what is sent
- `ResponseBody`, `Response` — what comes back
- `HttpInfo` — a value with status and headers
-/

namespace RestClient.Http

open Text (Octets)

/-- Headers in order, each a name and a value. -/
abbrev Headers := List (String × String)

/-- The value of the first header with a name, in any case of its letters. -/
def findHeader? (headers : Headers) (name : String) : Option String :=
  (headers.find? fun (n, _) => lowerAsciiText n == lowerAsciiText name).map (·.2)

/-! ### Requests -/

/-- Octets to send, with the content type that they are sent as. -/
structure RequestBody where
  contentType : Option String
  octets : Octets
  deriving DecidableEq, Repr

namespace RequestBody

/-- A text to send. -/
def text (s : String) : RequestBody :=
  ⟨some "text/plain; charset=UTF-8", Text.octetsOf s⟩

/-- Octets without a meaning. -/
def octetStream (octets : Octets) : RequestBody :=
  ⟨some "application/octet-stream", octets⟩

/-- Fields of a form. -/
def form (fields : String) : RequestBody :=
  ⟨some "application/x-www-form-urlencoded", Text.octetsOf fields⟩

/-- A JSON text. -/
def json (text : String) : RequestBody :=
  ⟨some "application/json; charset=UTF-8", Text.octetsOf text⟩

end RequestBody

/-- A named part of a multipart payload. -/
structure Part where
  name : String
  body : RequestBody
  deriving DecidableEq, Repr

/-- What a request carries. -/
inductive Payload where
  | empty
  | body (body : RequestBody)
  | multipart (parts : List Part)
  deriving DecidableEq, Repr

/-- A request, ready to be sent. -/
structure Request where
  verb : Verb
  url : String
  headers : Headers
  payload : Payload
  deriving DecidableEq, Repr

/-- The value of the first header of a request with a name. -/
def Request.header? (r : Request) (name : String) : Option String :=
  findHeader? r.headers name

/-! ### Responses -/

/-- The octets of a response, with their content type. -/
structure ResponseBody where
  octets : Octets
  contentType : Option String
  deriving DecidableEq, Repr

/-- The text of a body. -/
def ResponseBody.text (b : ResponseBody) : Except Failure String :=
  match Text.readUtf8 b.octets with
  | .ok cs => .ok (String.ofList cs)
  | .error fault => .error (.conversion (.notText fault))

/-- Whether a code is that of a success. -/
def isSuccess (status : Nat) : Bool :=
  200 ≤ status && status < 300

theorem isSuccess_iff {status : Nat} : isSuccess status = true ↔ 200 ≤ status ∧ status < 300 := by
  rw [isSuccess, Bool.and_eq_true, decide_eq_true_iff, decide_eq_true_iff]

/-- A response. -/
structure Response where
  status : Nat
  headers : Headers
  body : ResponseBody
  deriving DecidableEq, Repr

namespace Response

/-- A response whose content type is in its headers. -/
def of (status : Nat) (headers : Headers) (octets : Octets) : Response :=
  ⟨status, headers, octets, findHeader? headers "content-type"⟩

/-- The value of the first header of a response with a name. -/
def header? (r : Response) (name : String) : Option String :=
  findHeader? r.headers name

/-- The body of a success. -/
def successBody (r : Response) : Except Failure ResponseBody :=
  if isSuccess r.status then .ok r.body else .error (.status r.status r.body.octets)

end Response

/-- A value with status and headers: the value of a success, else the octets of the body. -/
structure HttpInfo (α : Type) where
  status : Nat
  headers : Headers
  body : Option α
  errorBody : Option Octets
  deriving Repr

namespace HttpInfo

variable {α β : Type}

/-- What a response says, its body converted if it is a success. -/
def ofResponse (convert : ResponseBody → Except Failure α) (r : Response) :
    Except Failure (HttpInfo α) :=
  if isSuccess r.status then
    (convert r.body).map fun value => ⟨r.status, r.headers, some value, none⟩
  else .ok ⟨r.status, r.headers, none, some r.body.octets⟩

/-- The value of the first header with a name. -/
def header? (info : HttpInfo α) (name : String) : Option String :=
  findHeader? info.headers name

/-- The same with another value. -/
def map (f : α → β) (info : HttpInfo α) : HttpInfo β :=
  ⟨info.status, info.headers, info.body.map f, info.errorBody⟩

end HttpInfo

end RestClient.Http
