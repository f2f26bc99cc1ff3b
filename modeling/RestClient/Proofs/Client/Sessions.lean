import RestClient.Client.Convention
import RestClient.Proofs.Interface.Methods

/-!
# What polls come to

Every body of a method is one exchange: its request goes out, unless it was not built, and once the
answer is there the rest follows at once. From that a session is known poll by poll, and a run by
induction on the answers that its polls find.

## Main definitions

- `Routine.exchange` — the routine that all bodies amount to
- `ReturnShape.concluded` — what an answer leads to
- `Session.Waits`, `Session.Starts` — sessions before and after the request has gone out
- `Session.settled` — the answer that a run goes by
- `Session.ComesTo` — what polls have come to
-/

namespace RestClient

open Http (Answer Block Event Failure HttpInfo Output Reply Request Response ResponseBody Routine
  Session)

variable {α β γ : Type}

/-! ### Exchanges -/

namespace Http.Routine

/-- Events, and then a result. -/
def telling (events : List (Event α)) (result : β) : Routine α β :=
  events.foldr happens (done result)

@[simp]
theorem poll_telling (events : List (Event α)) (result : β) (answer : Answer) :
    (telling events result).poll answer = (events, .inl result) := by
  induction events with
  | nil => rfl
  | cons event events ih =>
    rw [telling, List.foldr_cons, poll]
    exact congrArg (fun p : List (Event α) × _ => (event :: p.1, p.2)) ih

theorem telling_andThen (events : List (Event α)) (result : β) (f : β → Routine α γ) :
    (telling events result).andThen f = events.foldr happens (f result) := by
  induction events with
  | nil => rfl
  | cons event events ih => exact congrArg (happens event) ih

/-- A request goes out and its answer is waited for, unless there is no request. What follows is
told of both. -/
def exchange (request : Except Failure Request)
    (rest : Except Failure Response → List (Event α) × β) : Routine α β :=
  match request with
  | .error f => telling (rest (.error f)).1 (rest (.error f)).2
  | .ok request =>
    happens (.sent request) (await fun answer => telling (rest answer).1 (rest answer).2)

theorem exchange_andThen (request : Except Failure Request)
    (rest : Except Failure Response → List (Event α) × β) (after : β → List (Event α))
    (result : γ) :
    (exchange request rest).andThen (fun b => telling (after b) result) =
      exchange request fun answer => ((rest answer).1 ++ after (rest answer).2, result) := by
  have step (answer) : (telling (rest answer).1 (rest answer).2).andThen
      (fun b => telling (after b) result) =
        telling ((rest answer).1 ++ after (rest answer).2) result := by
    rw [telling_andThen, telling, telling, List.foldr_append]
  cases request with
  | error f => exact step (.error f)
  | ok request => exact congrArg (fun rest => happens _ (await rest)) (funext step)

end Http.Routine

open Http.Routine (telling exchange poll_telling)

/-- A result that a block makes into another one at its end. -/
theorem run_map_telling {x : Block α β} {events : List (Event α)} {result : Except Failure β}
    (h : x.run = telling events result) (f : β → γ) :
    (do return f (← x) : Block α γ).run = telling events (result.map f) := by
  have bound : (do return f (← x) : Block α γ).run =
      x.run.andThen (ExceptT.bindCont fun b => pure (f b)) := rfl
  rw [bound, h, Http.Routine.telling_andThen]
  cases result <;> rfl

/-- A block that sends a request and goes on with the response is an exchange. A failure leads to
no more than itself. -/
theorem run_exchange {built : Except Failure Request} {f : Response → Block α β}
    {rest : Except Failure Response → List (Event α) × Except Failure β}
    (failed : ∀ f, rest (.error f) = ([], .error f))
    (answered : ∀ response,
      (f response).run = telling (rest (.ok response)).1 (rest (.ok response)).2) :
    (do
      let request ← built
      let response ← Block.execute request
      f response : Block α β).run = exchange built rest := by
  cases built with
  | error f => rw [exchange, failed]; rfl
  | ok request =>
    refine congrArg (fun after => Routine.happens _ (.await after)) (funext fun answer => ?_)
    cases answer with
    | error f => rw [failed]; rfl
    | ok response => exact answered response

/-! ### What an answer leads to -/

/-- The bodies that are handed to their conversion for an answer: that of a success. -/
def readable : Except Failure Response → List ResponseBody
  | .ok response => if Http.isSuccess response.status then [response.body] else []
  | .error _ => []

namespace Http.Event

/-- What a callback is told. -/
def ofOutcome : Except Failure (HttpInfo α) → Event α
  | .ok info => succeeded info
  | .error failure => failed failure

variable (outcome : Except Failure (HttpInfo α))

@[simp]
theorem built?_ofOutcome : (ofOutcome outcome).built? = none := by
  cases outcome <;> rfl

@[simp]
theorem sent?_ofOutcome : (ofOutcome outcome).sent? = none := by
  cases outcome <;> rfl

@[simp]
theorem read?_ofOutcome : (ofOutcome outcome).read? = none := by
  cases outcome <;> rfl

@[simp]
theorem told?_ofOutcome : (ofOutcome outcome).told? = some outcome := by
  cases outcome <;> rfl

end Http.Event

namespace Surroundings

variable (e : Surroundings α) (response : Response)

theorem run_convert (body : ResponseBody) :
    (e.convert body).run = telling [.read body] (e.read body) := by
  obtain ⟨request, read, nothing⟩ := e
  cases h : read body with
  | error f => simp only [convert, h]; rfl
  | ok value => simp only [convert, h]; rfl

theorem run_successValue : (e.successValue response).run =
    telling ((readable (.ok response)).map .read) (Http.valueOf e.read response) := by
  simp only [successValue, readable, Http.valueOf, Response.successBody]
  cases Http.isSuccess response.status with
  | false => rfl
  | true => exact e.run_convert response.body

theorem run_infoOf : (e.infoOf response).run =
    telling ((readable (.ok response)).map .read) (HttpInfo.ofResponse e.read response) := by
  simp only [infoOf, readable, HttpInfo.ofResponse]
  cases Http.isSuccess response.status with
  | false => rfl
  | true => exact run_map_telling (e.run_convert response.body) _

/-! ### Bodies of methods -/

/-- The status and headers that an answer leads to. -/
def infoFor (answer : Except Failure Response) : Except Failure (HttpInfo α) :=
  answer.bind (HttpInfo.ofResponse e.read)

/-- The value that an answer leads to. -/
def valueFor (answer : Except Failure Response) : Except Failure α :=
  answer.bind (Http.valueOf e.read)

/-- The empty value that an answer leads to. -/
def nothingFor (answer : Except Failure Response) : Except Failure α :=
  answer.bind fun response => response.successBody.map fun _ => e.nothing

theorem run_build (f : Request → Block α β) : (e.build >>= f).run =
    .happens (.built e.request) (do let request ← e.request; f request : Block α β).run :=
  rfl

theorem run_awaitUnit : e.awaitUnit.run = .happens (.built e.request)
    (exchange e.request fun answer => ([], (e.nothingFor answer).map .value)) := by
  refine (e.run_build _).trans (congrArg _ (run_exchange (fun _ => rfl) fun response => ?_))
  simp only [Response.successBody, nothingFor, Except.bind]
  cases Http.isSuccess response.status <;> rfl

theorem run_streamValue (built : Except Failure Request) : (e.streamValue built).run =
    exchange built fun answer => ((readable answer).map .read, (e.valueFor answer).map .value) :=
  run_exchange (fun _ => rfl) fun response => run_map_telling (e.run_successValue response) _

theorem run_streamInfo (built : Except Failure Request) : (e.streamInfo built).run =
    exchange built fun answer => ((readable answer).map .read, (e.infoFor answer).map .info) :=
  run_exchange (fun _ => rfl) fun response => run_map_telling (e.run_infoOf response) _

theorem notify_eq (built : Except Failure Request) : e.notify built =
    exchange built fun answer =>
      ((readable answer).map .read ++ [Event.ofOutcome (e.infoFor answer)], ()) := by
  have block : (do
      let request ← built
      let response ← Block.execute request
      e.infoOf response : Block α (HttpInfo α)).run =
      exchange built fun answer => ((readable answer).map .read, e.infoFor answer) :=
    run_exchange (fun _ => rfl) fun response => e.run_infoOf response
  refine Eq.trans ?_ (Routine.exchange_andThen built
    (fun answer => ((readable answer).map .read, e.infoFor answer))
    (fun outcome => [Event.ofOutcome outcome]) ())
  rw [← block]
  refine congrArg (Routine.andThen _) (funext fun outcome => ?_)
  cases outcome <;> rfl

end Surroundings

/-! ### Sessions -/

namespace Http.Session

variable {concluded : Except Failure Response → List (Event α) × Reply α} {session : Session α}

/-- A session that waits for the answer to a request. -/
structure Waits (concluded : Except Failure Response → List (Event α) × Reply α)
    (session : Session α) : Prop where
  unfinished : session.isFinished = false
  poll_none : session.poll none = ([], .pending, session)
  poll_some (answer) :
    session.poll (some answer) = ((concluded answer).1, (concluded answer).2, finished)

/-- A session that has yet to send its request, if there is one, after some events. -/
structure Starts (early : List (Event α)) (request : Except Failure Request)
    (concluded : Except Failure Response → List (Event α) × Reply α) (session : Session α) :
    Prop where
  unfinished : session.isFinished = false
  failed (f answer) : request = .error f → session.poll answer =
    (early ++ (concluded (.error f)).1, (concluded (.error f)).2, finished)
  sent (q) : request = .ok q → ∃ waiting, Waits concluded waiting ∧ ∀ answer,
    session.poll answer =
      (early ++ .sent q :: (waiting.poll answer).1, (waiting.poll answer).2)

/-- A session of a routine, however it replies in the end, starts with the exchange that the routine
is. -/
theorem starts_exchange {wrap : Routine α β → Session α} (reply : β → Reply α)
    (unfinished : ∀ routine, (wrap routine).isFinished = false)
    (poll_wrap : ∀ routine answer, (wrap routine).poll answer =
      match routine.poll answer with
      | (events, .inl result) => (events, reply result, finished)
      | (events, .inr rest) => (events, .pending, wrap rest))
    (request : Except Failure Request) (rest : Except Failure Response → List (Event α) × β) :
    Starts [] request (fun answer => ((rest answer).1, reply (rest answer).2))
      (wrap (exchange request rest)) where
  unfinished := unfinished _
  failed := by
    rintro f answer rfl
    rw [poll_wrap, exchange, poll_telling]
    rfl
  sent := by
    rintro q rfl
    refine ⟨wrap (.await fun answer => telling (rest answer).1 (rest answer).2),
      ⟨unfinished _, poll_wrap _ none, fun answer => ?_⟩, fun answer => ?_⟩
    · rw [poll_wrap, Routine.poll, poll_telling]
    · rw [poll_wrap, poll_wrap]
      cases answer with
      | none => rfl
      | some answer => simp only [exchange, Routine.poll, poll_telling, List.nil_append]

theorem starts_giving (request : Except Failure Request)
    (rest : Except Failure Response → List (Event α) × Except Failure (Output α)) :
    Starts [] request (fun answer => ((rest answer).1, .item (rest answer).2))
      (giving (exchange request rest)) := by
  refine starts_exchange .item (fun _ => rfl) (fun routine answer => ?_) request rest
  rw [Session.poll]
  rcases routine.poll answer with ⟨events, result | rest⟩ <;> rfl

theorem starts_working (request : Except Failure Request)
    (rest : Except Failure Response → List (Event α) × Unit) :
    Starts [] request (fun answer => ((rest answer).1, .ended))
      (working (exchange request rest)) := by
  refine starts_exchange (fun _ => .ended) (fun _ => rfl) (fun routine answer => ?_) request rest
  rw [Session.poll]
  rcases routine.poll answer with ⟨events, result | rest⟩ <;> rfl

theorem Starts.happens {early : List (Event α)} {request : Except Failure Request}
    {routine : Routine α (Except Failure (Output α))}
    (h : Starts early request concluded (giving routine)) (event : Event α) :
    Starts (event :: early) request concluded (giving (.happens event routine)) := by
  have step (answer) : (giving (.happens event routine)).poll answer =
      (event :: ((giving routine).poll answer).1, ((giving routine).poll answer).2) := by
    simp only [Session.poll, Routine.poll]
    rcases routine.poll answer with ⟨events, result | rest⟩ <;> rfl
  refine ⟨rfl, fun f answer hf => ?_, fun q hq => ?_⟩
  · rw [step, h.failed f answer hf, List.cons_append]
  · obtain ⟨waiting, hw, hpoll⟩ := h.sent q hq
    exact ⟨waiting, hw, fun answer => by rw [step, hpoll, List.cons_append]⟩

/-! ### Polls in a row -/

/-- The answer that polls go by: the first one that they find, or the failure to build the request
as soon as there is a poll. -/
def settled (request : Except Failure Request) (answers : List Answer) :
    Option (Except Failure Response) :=
  match request with
  | .ok _ => answers.findSome? id
  | .error f => answers.head?.map fun _ => .error f

/-- What polls come to: the events that they start with, those that follow an answer, an item if the
answer gives one, and an end that is not before the answer. -/
structure ComesTo (start : List (Event α)) (answer : Option (Except Failure Response))
    (concluded : Except Failure Response → List (Event α) × Reply α)
    (polled : List (Event α) × List (Reply α) × Session α) : Prop where
  events : polled.1 = start ++ answer.elim [] fun answer => (concluded answer).1
  items : polled.2.1.filterMap Reply.item? =
    answer.toList.filterMap fun answer => (concluded answer).2.item?
  ended : .ended ∈ polled.2.1 → answer.isSome
  finished : polled.2.2.isFinished = answer.isSome

theorem polls_cons (session : Session α) (answer : Answer) (answers : List Answer) :
    session.polls (answer :: answers) =
      ((session.poll answer).1 ++ ((session.poll answer).2.2.polls answers).1,
        (session.poll answer).2.1 :: ((session.poll answer).2.2.polls answers).2.1,
        ((session.poll answer).2.2.polls answers).2.2) :=
  rfl

theorem polls_finished (answers : List Answer) :
    (finished : Session α).polls answers =
      ([], List.replicate answers.length .ended, finished) := by
  induction answers with
  | nil => rfl
  | cons answer answers ih =>
    rw [polls_cons, Session.poll, ih, List.length_cons, List.replicate_succ]
    rfl

/-- After the poll that concludes a session the polls have come to what it concludes with. -/
theorem comesTo_of_poll {start : List (Event α)} {found : Except Failure Response}
    {answer : Answer} (h : session.poll answer =
      (start ++ (concluded found).1, (concluded found).2, finished)) (answers : List Answer) :
    ComesTo start (some found) concluded (session.polls (answer :: answers)) := by
  have unfolded : session.polls (answer :: answers) = (start ++ (concluded found).1,
      (concluded found).2 :: List.replicate answers.length .ended, finished) := by
    rw [polls_cons, h, polls_finished, List.append_nil]
  have no_more (n : Nat) : (List.replicate n (.ended : Reply α)).filterMap Reply.item? = [] := by
    refine List.filterMap_eq_nil_iff.mpr fun reply hreply => ?_
    rw [List.eq_of_mem_replicate hreply]
    rfl
  rw [unfolded]
  refine ⟨rfl, ?_, fun _ => rfl, rfl⟩
  rw [List.filterMap_cons, no_more]
  rfl

theorem Waits.comesTo (h : Waits concluded session) (answers : List Answer) :
    ComesTo [] (answers.findSome? id) concluded (session.polls answers) := by
  -- a poll that finds no answer leaves the session as it is; the first answer concludes it
  induction answers with
  | nil => exact ⟨rfl, rfl, by simp [polls], h.unfinished⟩
  | cons answer answers ih =>
    cases answer with
    | none =>
      have unfolded : session.polls (none :: answers) =
          ((session.polls answers).1, .pending :: (session.polls answers).2.1,
            (session.polls answers).2.2) := by
        rw [polls_cons, h.poll_none]
        rfl
      rw [unfolded]
      refine ⟨ih.events, ih.items, fun hmem => ih.ended ?_, ih.finished⟩
      simpa using hmem
    | some answer => exact comesTo_of_poll (h.poll_some answer) answers

/-- Once polled, a session has told what comes early and sent its request, if there is one. -/
theorem Starts.comesTo {early : List (Event α)} {request : Except Failure Request}
    (h : Starts early request concluded session) (answers : List Answer) :
    ComesTo (if answers = [] then [] else early ++ request.toOption.toList.map .sent)
      (settled request answers) concluded (session.polls answers) := by
  -- only the first poll differs from those of a session that waits
  cases answers with
  | nil =>
    have none_settled : settled request [] = none := by cases request <;> rfl
    rw [none_settled]
    exact ⟨rfl, rfl, by simp [polls], h.unfinished⟩
  | cons answer answers =>
    rw [if_neg (List.cons_ne_nil _ _)]
    cases request with
    | error f =>
      have started := comesTo_of_poll (h.failed f answer rfl) answers
      exact (List.append_nil early).symm ▸ started
    | ok q =>
      obtain ⟨waiting, hw, hpoll⟩ := h.sent q rfl
      have unfolded : session.polls (answer :: answers) =
          (early ++ .sent q :: (waiting.polls (answer :: answers)).1,
            (waiting.polls (answer :: answers)).2) := by
        rw [polls_cons, polls_cons, hpoll, List.append_assoc, List.cons_append]
      have waited := hw.comesTo (answer :: answers)
      rw [unfolded]
      refine ⟨?_, waited.items, waited.ended, waited.finished⟩
      rw [waited.events]
      simp [settled, Except.toOption]

end Http.Session

open Http.Session (Starts ComesTo settled)

/-! ### Runs -/

/-- What happens when the answer to a request is there, and the reply that it leads to. -/
def ReturnShape.concluded (e : Surroundings α) (r : ReturnShape)
    (answer : Except Failure Response) : List (Event α) × Reply α :=
  let read : List (Event α) := (readable answer).map .read
  match r with
  | .void => ([], .item ((e.nothingFor answer).map .value))
  | .value _ | .reactive _ false _ => (read, .item ((e.valueFor answer).map .value))
  | .info _ | .reactive _ true _ => (read, .item ((e.infoFor answer).map .info))
  | .callback _ => (read ++ [.ofOutcome (e.infoFor answer)], .ended)

/-- The session that a call leaves starts by building the request, if it is one that is awaited. -/
theorem ReturnShape.starts (e : Surroundings α) (r : ReturnShape) :
    Starts (if r.isAwaited then [.built e.request] else []) e.request (r.concluded e)
      (r.start e).2 := by
  -- what is awaited is the routine of a stream, behind the building of the request
  have value := Http.Session.starts_giving e.request fun answer =>
    ((readable answer).map .read, (e.valueFor answer).map .value)
  have info := Http.Session.starts_giving e.request fun answer =>
    ((readable answer).map .read, (e.infoFor answer).map .info)
  cases r with
  | void =>
    rw [start, e.run_awaitUnit]
    have unit := Http.Session.starts_giving e.request fun answer =>
      ([], (e.nothingFor answer).map .value)
    exact unit.happens _
  | value type =>
    have built : e.awaitValue.run = .happens (.built e.request) (e.streamValue e.request).run := rfl
    rw [start, built, e.run_streamValue]
    exact value.happens _
  | info type =>
    have built : e.awaitInfo.run = .happens (.built e.request) (e.streamInfo e.request).run := rfl
    rw [start, built, e.run_streamInfo]
    exact info.happens _
  | callback type =>
    rw [start, e.notify_eq]
    exact Http.Session.starts_working e.request fun answer =>
      ((readable answer).map .read ++ [Event.ofOutcome (e.infoFor answer)], ())
  | reactive item withInfo boxed =>
    cases withInfo with
    | false =>
      rw [start, e.run_streamValue]
      exact value
    | true =>
      rw [start, e.run_streamInfo]
      exact info

theorem ReturnShape.start_early (e : Surroundings α) (r : ReturnShape) :
    (r.start e).1 = if r.isAwaited then [] else [.built e.request] := by
  cases r with
  | reactive item withInfo boxed => cases withInfo <;> rfl
  | _ => rfl

/-- The polls of a run have come to what the answer leads to that it goes by. -/
theorem ReturnShape.comesTo_run (e : Surroundings α) (answers : List Answer) (r : ReturnShape) :
    ComesTo ((if r.isAwaited ∧ answers = [] then [] else [.built e.request]) ++
        if answers = [] then [] else e.request.toOption.toList.map .sent)
      (settled e.request answers) (r.concluded e)
      ((r.run e answers).events, (r.run e answers).replies, (r.run e answers).session) := by
  have polled := (r.starts e).comesTo answers
  refine ⟨?_, polled.items, polled.ended, polled.finished⟩
  have events : (r.run e answers).events = (r.start e).1 ++ ((r.start e).2.polls answers).1 := rfl
  rw [events, polled.events, r.start_early e, ← List.append_assoc]
  refine congrArg (· ++ _) ?_
  by_cases none_yet : answers = []
  · simp [none_yet]
  · cases r.isAwaited <;> simp [none_yet]

end RestClient
