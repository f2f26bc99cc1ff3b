import RestClient.Http.Stream

/-!
# Delivery

How the result of a call reaches the caller: the caller waits for a value, for a value with status
and headers, or for nothing but success; a callback is told; or a stream yields it. A request that
could not be built is never sent.

## Main definitions

- `Transport` — what sends requests
- `send` — the response to a request that may not have been built, with `send_ok` and `send_error`
- `awaitInfo`, `awaitValue`, `awaitUnit` — the caller waits
- `notify` — a callback is told
- `streamInfo`, `streamValue` — a stream yields
-/

namespace RestClient.Http

variable {σ α : Type}

/-- What sends requests and receives responses. -/
abbrev Transport (σ : Type) := Request → Exchange σ Response

/-- How the body of a success becomes a value. -/
abbrev BodyReader (α : Type) := ResponseBody → Except Failure α

/-- The response to a request, if it was built. -/
def send (transport : Transport σ) (request : Except Failure Request) : Exchange σ Response :=
  match request with
  | .ok r => transport r
  | .error f => failing f

/-- A request that was built goes to the transport. -/
@[simp]
theorem send_ok (transport : Transport σ) (r : Request) : send transport (.ok r) = transport r :=
  rfl

/-- A request that could not be built goes nowhere, and nothing becomes of the world. -/
@[simp]
theorem send_error (transport : Transport σ) (f : Failure) (world : σ) :
    send transport (.error f) world = (.error f, world) :=
  rfl

/-- The value of a response, which has to be a success. -/
def valueOf (read : BodyReader α) (response : Response) : Except Failure α :=
  response.successBody.bind read

/-- The caller waits for a value with status and headers. -/
def awaitInfo (transport : Transport σ) (read : BodyReader α) (request : Except Failure Request) :
    StateM σ (Except Failure (HttpInfo α)) := do
  return (← send transport request).bind (HttpInfo.ofResponse read)

/-- The caller waits for a value. -/
def awaitValue (transport : Transport σ) (read : BodyReader α)
    (request : Except Failure Request) : StateM σ (Except Failure α) := do
  return (← send transport request).bind (valueOf read)

/-- The caller waits for success. -/
def awaitUnit (transport : Transport σ) (request : Except Failure Request) : Exchange σ Unit :=
  awaitValue transport (fun _ => .ok ()) request

/-- A callback is told what comes of the request. -/
def notify (transport : Transport σ) (read : BodyReader α) (callback : Callback σ α)
    (request : Except Failure Request) : StateM σ Unit := do
  callback.tell (← awaitInfo transport read request)

/-- A stream yields a value with status and headers. -/
def streamInfo (transport : Transport σ) (read : BodyReader α)
    (request : Except Failure Request) : ResponseStream σ (HttpInfo α) :=
  .once (awaitInfo transport read request)

/-- A stream yields a value. -/
def streamValue (transport : Transport σ) (read : BodyReader α)
    (request : Except Failure Request) : ResponseStream σ α :=
  .once (awaitValue transport read request)

end RestClient.Http
