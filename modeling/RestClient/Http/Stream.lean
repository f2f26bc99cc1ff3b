import RestClient.Http.Message

/-!
# Streams and callbacks

Two ways in which results are delivered later. A stream holds what is still to be run; nothing of
it runs before it is asked for. A callback is told the one outcome of a call.

## Main definitions

- `Exchange` — something that runs in a world and may fail
- `ResponseStream` — results that are asked for, with `next`, `single` and `collect`
- `Callback` — a receiver of one outcome
-/

namespace RestClient.Http

/-- Something that runs in a world of type `σ` and may fail. -/
abbrev Exchange (σ α : Type) := StateM σ (Except Failure α)

/-- A failure for which nothing is run. -/
def failing {σ α : Type} (f : Failure) : StateM σ (Except Failure α) :=
  pure (.error f)

/-- The same with another value. -/
def mapResult {σ α β : Type} (f : α → β) (x : Exchange σ α) : Exchange σ β :=
  StateT.map (Except.map f) x

/-- Results that are still to be run for. -/
structure ResponseStream (σ α : Type) where
  pending : List (Exchange σ α)

namespace ResponseStream

variable {σ α : Type}

/-- A stream of one result. -/
def once (x : Exchange σ α) : ResponseStream σ α :=
  ⟨[x]⟩

/-- A stream of a failure. -/
def failed (f : Failure) : ResponseStream σ α :=
  once (failing f)

/-- The next result, none at the end, and the rest of the stream. -/
def next (s : ResponseStream σ α) :
    StateM σ (Option (Except Failure α) × ResponseStream σ α) :=
  match s.pending with
  | [] => pure (none, s)
  | x :: rest => do
    let result ← x
    pure (some result, ⟨rest⟩)

/-- The failure of a stream that ends before its first result. -/
def completedEarly : Failure :=
  .rule "response stream completed without a value"

/-- The first result. -/
def single (s : ResponseStream σ α) : Exchange σ α :=
  match s.pending with
  | [] => failing completedEarly
  | x :: _ => x

/-- All results. -/
def collect (s : ResponseStream σ α) : StateM σ (List (Except Failure α)) :=
  s.pending.mapM id

end ResponseStream

/-- A receiver of an outcome: a response of any status, or a failure. -/
structure Callback (σ α : Type) where
  onSuccess : HttpInfo α → StateM σ Unit
  onFailure : Failure → StateM σ Unit

namespace Callback

variable {σ α : Type}

/-- A callback that hands both outcomes to one function. -/
def ofFunction (f : Except Failure (HttpInfo α) → StateM σ Unit) : Callback σ α :=
  ⟨fun info => f (.ok info), fun failure => f (.error failure)⟩

/-- A callback that passes on what it is told. -/
def boxed (c : Callback σ α) : Callback σ α :=
  ⟨fun info => c.onSuccess info, fun failure => c.onFailure failure⟩

/-- A callback is told an outcome. -/
def tell (c : Callback σ α) : Except Failure (HttpInfo α) → StateM σ Unit
  | .ok info => c.onSuccess info
  | .error failure => c.onFailure failure

end Callback

end RestClient.Http
