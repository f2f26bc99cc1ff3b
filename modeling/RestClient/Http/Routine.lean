import RestClient.Http.Delivery

/-!
# Routines

What runs from poll to poll. A routine goes on until it waits for the answer to a request; a poll
that comes before the answer leaves it where it is. What it does on the way is told as events.

## Main definitions

- `Event` — what a routine does
- `Routine` — routines, with `Routine.poll`
- `Block` — routines that fail
- `Session` — what a call has left to be polled, with `Session.poll` and `Session.polls`
-/

namespace RestClient.Http

/-- What happens in the course of a call: a request is built, or fails to be; it is handed to the
transport; a body is handed to its conversion; the callback is told. -/
inductive Event (α : Type) where
  | built (result : Except Failure Request)
  | sent (request : Request)
  | read (body : ResponseBody)
  | succeeded (info : HttpInfo α)
  | failed (failure : Failure)

namespace Event

variable {α : Type}

/-- What has come of building a request. -/
def built? : Event α → Option (Except Failure Request)
  | built result => some result
  | _ => none

/-- The request that has been handed to the transport. -/
def sent? : Event α → Option Request
  | sent request => some request
  | _ => none

/-- The body that has been handed to its conversion. -/
def read? : Event α → Option ResponseBody
  | read body => some body
  | _ => none

/-- What the callback has been told. -/
def told? : Event α → Option (Except Failure (HttpInfo α))
  | succeeded info => some (.ok info)
  | failed failure => some (.error failure)
  | _ => none

end Event

/-- The answer that a poll finds: none while the transport is still at work. -/
abbrev Answer := Option (Except Failure Response)

/-- Something that runs from poll to poll: it is done, something happens before the rest of it, or
it waits for an answer. -/
inductive Routine (α β : Type) where
  | done (result : β)
  | happens (event : Event α) (rest : Routine α β)
  | await (rest : Except Failure Response → Routine α β)

namespace Routine

variable {α β γ : Type}

/-- A routine, and another one behind it. -/
def andThen : Routine α β → (β → Routine α γ) → Routine α γ
  | done result, f => f result
  | happens event rest, f => happens event (rest.andThen f)
  | await rest, f => await fun answer => (rest answer).andThen f

instance : Monad (Routine α) where
  pure := done
  bind := andThen

/-- What happens in a poll, and what is left: a result, or the routine where it waits. One poll
finds one answer. -/
def poll : Answer → Routine α β → List (Event α) × (β ⊕ Routine α β)
  | _, done result => ([], .inl result)
  | answer, happens event rest =>
    let (events, left) := rest.poll answer
    (event :: events, left)
  | none, await rest => ([], .inr (await rest))
  | some answer, await rest => (rest answer).poll none

end Routine

/-- A routine that a failure ends early. -/
abbrev Block (α β : Type) := ExceptT Failure (Routine α) β

namespace Block

variable {α : Type}

/-- Something happens. -/
def happens (event : Event α) : Block α Unit :=
  ExceptT.mk (.happens event (.done (.ok ())))

/-- A request is handed to the transport, and its response is waited for. -/
def execute (request : Request) : Block α Response := do
  happens (.sent request)
  ExceptT.mk (.await .done)

end Block

/-! ### Sessions -/

/-- What the caller of a method gets in the end: a value, alone or with status and headers. -/
inductive Output (α : Type) where
  | value (value : α)
  | info (info : HttpInfo α)

/-- What a poll gives: nothing yet, the one item, or the end. -/
inductive Reply (α : Type) where
  | pending
  | item (result : Except Failure (Output α))
  | ended

/-- The item in a reply. -/
def Reply.item? {α : Type} : Reply α → Option (Except Failure (Output α))
  | .item result => some result
  | .pending | .ended => none

/-- What the call of a method leaves to be polled: a routine that gives an item, one that works in
the background and gives none, or nothing. -/
inductive Session (α : Type) where
  | giving (routine : Routine α (Except Failure (Output α)))
  | working (routine : Routine α Unit)
  | finished

namespace Session

variable {α : Type}

/-- Whether nothing is left to be polled. -/
def isFinished : Session α → Bool
  | finished => true
  | giving _ | working _ => false

/-- A poll of a session. -/
def poll (answer : Answer) : Session α → List (Event α) × Reply α × Session α
  | giving routine =>
    match routine.poll answer with
    | (events, .inl result) => (events, .item result, finished)
    | (events, .inr rest) => (events, .pending, giving rest)
  | working routine =>
    match routine.poll answer with
    | (events, .inl ()) => (events, .ended, finished)
    | (events, .inr rest) => (events, .pending, working rest)
  | finished => ([], .ended, finished)

/-- Polls in a row, each with the answer that it finds. -/
def polls : List Answer → Session α → List (Event α) × List (Reply α) × Session α
  | [], session => ([], [], session)
  | answer :: answers, session =>
    let (events, reply, session) := session.poll answer
    let (later, replies, session) := polls answers session
    (events ++ later, reply :: replies, session)

end Session

end RestClient.Http
