import RestClient.Client.Call
import RestClient.Http.Routine

/-!
# Calling conventions

What a method does when it is called and polled, statement by statement, in each of the ways in
which it can deliver. A method that is awaited does nothing before it is polled. The others build
their request at once and keep the result, be it a failure, for the routine that sends it.

## Main definitions

- `Surroundings` — what a method finds when it runs
- `ReturnShape.start` — what happens at a call, and what it leaves to be polled
- `Run`, `ReturnShape.run` — a call with the polls behind it
- `MethodPlan.surroundings` — what a method of a client finds
-/

namespace RestClient

open Http (Answer Block BodyReader Event Failure HttpInfo Output Reply Request Response ResponseBody
  Routine Session)

/-- What a method finds when it runs: what becomes of its request when it is built, how the body of
a response is converted, and what stands for the empty value. -/
structure Surroundings (α : Type) where
  request : Except Failure Request
  read : BodyReader α
  nothing : α

namespace Surroundings

variable {α : Type} (e : Surroundings α)

/-! ### Expressions -/

/-- The request is built. -/
def build : Block α Request := do
  Block.happens (.built e.request)
  e.request

/-- A body is converted. -/
def convert (body : ResponseBody) : Block α α := do
  Block.happens (.read body)
  e.read body

/-- The value of a successful response. -/
def successValue (response : Response) : Block α α := do
  let body ← response.successBody
  e.convert body

/-- A value with status and headers; the body of a success is converted. -/
def infoOf (response : Response) : Block α (HttpInfo α) := do
  if Http.isSuccess response.status then
    let value ← e.convert response.body
    return ⟨response.status, response.headers, some value, none⟩
  else return ⟨response.status, response.headers, none, some response.body.octets⟩

/-! ### Bodies of methods -/

/-- The caller waits for success. -/
def awaitUnit : Block α (Output α) := do
  let request ← e.build
  let response ← Block.execute request
  let _ ← response.successBody
  return .value e.nothing

/-- The caller waits for a value. -/
def awaitValue : Block α (Output α) := do
  let request ← e.build
  let response ← Block.execute request
  let value ← e.successValue response
  return .value value

/-- The caller waits for a value with status and headers. -/
def awaitInfo : Block α (Output α) := do
  let request ← e.build
  let response ← Block.execute request
  let info ← e.infoOf response
  return .info info

/-- A stream yields a value; the request was built before. -/
def streamValue (built : Except Failure Request) : Block α (Output α) := do
  let request ← built
  let response ← Block.execute request
  let value ← e.successValue response
  return .value value

/-- A stream yields a value with status and headers; the request was built before. -/
def streamInfo (built : Except Failure Request) : Block α (Output α) := do
  let request ← built
  let response ← Block.execute request
  return .info (← e.infoOf response)

/-- A callback is told what comes of the request, which was built before. -/
def notify (built : Except Failure Request) : Routine α Unit := do
  let exchange : Block α (HttpInfo α) := do
    let request ← built
    let response ← Block.execute request
    e.infoOf response
  match ← exchange.run with
  | .ok info => .happens (.succeeded info) (.done ())
  | .error failure => .happens (.failed failure) (.done ())

end Surroundings

/-! ### Calls and polls -/

/-- What happens when a method is called, and what is left to be polled. -/
def ReturnShape.start {α : Type} (e : Surroundings α) : ReturnShape → List (Event α) × Session α
  | .void => ([], .giving e.awaitUnit.run)
  | .value _ => ([], .giving e.awaitValue.run)
  | .info _ => ([], .giving e.awaitInfo.run)
  | .callback _ => ([.built e.request], .working (e.notify e.request))
  | .reactive _ true _ => ([.built e.request], .giving (e.streamInfo e.request).run)
  | .reactive _ false _ => ([.built e.request], .giving (e.streamValue e.request).run)

/-- A call with polls behind it: all that has happened, the replies to the polls, and what is still
left. -/
structure Run (α : Type) where
  events : List (Event α)
  replies : List (Reply α)
  session : Session α

/-- A method is called and then polled, each time with the answer that is found. -/
def ReturnShape.run {α : Type} (e : Surroundings α) (answers : List Answer) (r : ReturnShape) :
    Run α :=
  let (early, session) := r.start e
  let (later, replies, session) := session.polls answers
  ⟨early ++ later, replies, session⟩

namespace Run

variable {α : Type} (run : Run α)

/-- What has come of building requests. -/
def built : List (Except Failure Request) :=
  run.events.filterMap Event.built?

/-- The requests that have been handed to the transport. -/
def sent : List Request :=
  run.events.filterMap Event.sent?

/-- The bodies that have been handed to their conversion. -/
def bodiesRead : List ResponseBody :=
  run.events.filterMap Event.read?

/-- What the callback has been told. -/
def told : List (Except Failure (HttpInfo α)) :=
  run.events.filterMap Event.told?

/-- The items among the replies. -/
def items : List (Except Failure (Output α)) :=
  run.replies.filterMap Reply.item?

end Run

/-- What a method of a client finds when it is called. -/
def MethodPlan.surroundings {σ : Type} (client : Client σ) (arguments : Arguments)
    (m : MethodPlan) : Surroundings Json.Content where
  request := m.request.build client.converters client.baseUrl arguments
  read := m.response.reader client.converters
  nothing := .null

end RestClient
