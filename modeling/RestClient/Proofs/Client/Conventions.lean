import RestClient.Proofs.Client.Sessions

/-!
# Calling conventions agree

Whatever way a method delivers in, it sends what it has built once it is polled and not again, and
delivers once. What it delivers is the same in all of them, up to what the way leaves out: the value
alone in place of a value with status and headers, or a failure in place of a response that is not a
success.

## Main results

- `MethodPlan.call_gives` — a call that is performed at once gives what its run gives
- `method_sends_and_delivers_once` — what is built, sent and delivered in a run
- `conventions_agree` — the outcomes of the ways to deliver
-/

namespace RestClient

open Http (Answer Callback Event Failure HttpInfo Output Reply Request Response ResponseBody
  ResponseStream)
open Http.Session (settled)

variable {α : Type}

/-! ### What a run tells -/

namespace ReturnShape

/-- The bodies that a method hands to their conversion for an answer. -/
def reads : ReturnShape → Except Failure Response → List ResponseBody
  | void, _ => []
  | _, answer => readable answer

/-- What a method tells its callback for an answer. -/
def tells (e : Surroundings α) :
    ReturnShape → Except Failure Response → List (Except Failure (HttpInfo α))
  | callback _, answer => [e.infoFor answer]
  | _, _ => []

theorem concluded_events (e : Surroundings α) (r : ReturnShape)
    (answer : Except Failure Response) : (r.concluded e answer).1 =
      (r.reads answer).map .read ++ (r.tells e answer).map .ofOutcome := by
  cases r with
  | callback type => rfl
  | reactive item withInfo boxed => cases withInfo <;> exact (List.append_nil _).symm
  | _ => exact (List.append_nil _).symm

variable (e : Surroundings α) (answers : List Answer) (r : ReturnShape)

/-- What comes of building requests in a run. -/
def builds : List (Except Failure Request) :=
  if r.isAwaited ∧ answers = [] then [] else [e.request]

/-- The requests that a run sends. -/
def sends : List Request :=
  if answers = [] then [] else e.request.toOption.toList

theorem events_run : (r.run e answers).events =
    (builds e answers r).map .built ++ ((sends e answers).map .sent ++
      (((settled e.request answers).toList.flatMap r.reads).map .read ++
        ((settled e.request answers).toList.flatMap (r.tells e)).map .ofOutcome)) := by
  have events := (r.comesTo_run e answers).events
  dsimp only at events
  rw [events, List.append_assoc]
  congr 1
  · rw [builds]; split <;> rfl
  congr 1
  · rw [sends]; split <;> rfl
  · cases settled e.request answers with
    | none => rfl
    | some answer => simp [r.concluded_events e answer]

theorem built_run : (r.run e answers).built = builds e answers r := by
  rw [Run.built, r.events_run]
  simp only [List.filterMap_append, List.filterMap_map, Function.comp_def,
    Event.built?_ofOutcome]
  simp [Event.built?]

theorem sent_run : (r.run e answers).sent = sends e answers := by
  rw [Run.sent, r.events_run]
  simp only [List.filterMap_append, List.filterMap_map, Function.comp_def,
    Event.sent?_ofOutcome]
  simp [Event.sent?]

theorem bodiesRead_run : (r.run e answers).bodiesRead =
    (settled e.request answers).toList.flatMap r.reads := by
  rw [Run.bodiesRead, r.events_run]
  simp only [List.filterMap_append, List.filterMap_map, Function.comp_def,
    Event.read?_ofOutcome]
  simp [Event.read?]

theorem told_run : (r.run e answers).told =
    (settled e.request answers).toList.flatMap (r.tells e) := by
  rw [Run.told, r.events_run]
  simp only [List.filterMap_append, List.filterMap_map, Function.comp_def,
    Event.told?_ofOutcome]
  simp [Event.told?]

/-- A body that is handed to its conversion is that of a success. -/
theorem reads_cases (answer : Except Failure Response) : r.reads answer = [] ∨
    ∃ response, answer = .ok response ∧ Http.isSuccess response.status = true ∧
      r.reads answer = [response.body] := by
  have readable_cases : readable answer = [] ∨ ∃ response, answer = .ok response ∧
      Http.isSuccess response.status = true ∧ readable answer = [response.body] := by
    cases answer with
    | error f => exact .inl rfl
    | ok response =>
      cases hs : Http.isSuccess response.status with
      | false => exact .inl (by simp [readable, hs])
      | true => exact .inr ⟨response, rfl, hs, by simp [readable, hs]⟩
  cases r with
  | void => exact .inl rfl
  | _ => exact readable_cases

theorem items_run : (r.run e answers).items =
    (settled e.request answers).toList.filterMap fun answer => (r.concluded e answer).2.item? :=
  (r.comesTo_run e answers).items

theorem isFinished_run : (r.run e answers).session.isFinished =
    (settled e.request answers).isSome :=
  (r.comesTo_run e answers).finished

/-- Whether a method tells a callback. -/
def tellsCallback : ReturnShape → Bool
  | callback _ => true
  | _ => false

theorem length_told_run : (r.run e answers).told.length =
    if r.tellsCallback ∧ (r.run e answers).session.isFinished then 1 else 0 := by
  rw [r.told_run, r.isFinished_run]
  cases settled e.request answers with
  | none => simp
  | some answer => cases r <;> simp [tells, tellsCallback]

theorem length_items_run : (r.run e answers).items.length =
    if ¬r.tellsCallback ∧ (r.run e answers).session.isFinished then 1 else 0 := by
  rw [r.items_run, r.isFinished_run]
  cases settled e.request answers with
  | none => simp
  | some answer =>
    cases r with
    | reactive item withInfo boxed =>
      cases withInfo <;> simp [concluded, Reply.item?, tellsCallback]
    | _ => simp [concluded, Reply.item?, tellsCallback]

end ReturnShape

/-- A run is settled by the answer to its request, or by its first poll if there is no request. -/
theorem settled_isSome_iff (request : Except Failure Request) (answers : List Answer) :
    (settled request answers).isSome ↔
      answers ≠ [] ∧ ∀ q, request = .ok q → ∃ answer, some answer ∈ answers := by
  cases request with
  | error f => cases answers <;> simp [settled]
  | ok q =>
    have found : (answers.findSome? id).isSome ↔ ∃ answer, some answer ∈ answers := by
      rw [List.findSome?_isSome_iff]
      simp [Option.isSome_iff_exists]
    have polled : (∃ answer, some answer ∈ answers) → answers ≠ [] := by
      rintro ⟨answer, hanswer⟩
      exact List.ne_nil_of_mem hanswer
    rw [settled, found]
    exact ⟨fun h => ⟨polled h, fun _ _ => h⟩, fun h => h.2 q rfl⟩

theorem findSome?_of_settled {request : Except Failure Request} {answers : List Answer}
    {response : Response} (h : settled request answers = some (.ok response)) :
    answers.findSome? id = some (.ok response) := by
  cases request with
  | error f => cases answers <;> simp [settled] at h
  | ok q => exact h

theorem Http.valueOf_const {β : Type} (b : β) (response : Response) :
    Http.valueOf (fun _ => .ok b) response = response.successBody.map fun _ => b := by
  rw [Http.valueOf]
  cases response.successBody <;> rfl

/-- Waiting for nothing but success is waiting for a value that every success has. -/
theorem Surroundings.nothingFor_eq_valueFor (e : Surroundings α)
    (answer : Except Failure Response) : e.nothingFor answer =
      Surroundings.valueFor { e with read := fun _ => .ok e.nothing } answer :=
  congrArg answer.bind (funext fun response => (Http.valueOf_const e.nothing response).symm)

theorem Surroundings.nothingFor_eq_map (e : Surroundings α) (answer : Except Failure Response) :
    e.nothingFor answer =
      (answer.bind (Http.valueOf fun _ => .ok ())).map fun _ => e.nothing := by
  cases answer with
  | error f => rfl
  | ok response =>
    simp only [nothingFor, Except.bind, Http.valueOf_const]
    cases response.successBody <;> rfl

/-! ### Calls that are performed at once -/

open Json (Content)

variable {σ : Type}

/-- What a call gives when it is performed at once, in a world that becomes another one, is what a
run of it gives. -/
def Call.Gives (call : Call σ) (world later : σ) (run : Run Content) : Prop :=
  match call with
  | .value x => ∃ result, x world = (result, later) ∧ run.items = [result.map .value]
  | .info x => ∃ result, x world = (result, later) ∧ run.items = [result.map .info]
  | .callback tell =>
    ∃ outcome, (∀ c : Callback σ Content, tell c world = c.tell outcome later) ∧
      run.told = [outcome]
  | .stream results =>
    ∃ result, results.collect world = ([result], later) ∧ run.items = [result.map .value]
  | .infoStream results =>
    ∃ result, results.collect world = ([result], later) ∧ run.items = [result.map .info]

/-- Performed at once, with the answer of the transport of the client, a call gives what its run
gives. -/
theorem MethodPlan.call_gives (client : Client σ) (arguments : Arguments) (m : MethodPlan)
    (world : σ) :
    let e := m.surroundings client arguments
    let (answer, later) := Http.send client.transport e.request world
    (m.call client arguments).Gives world later (m.returns.run e [some answer]) := by
  intro e
  -- a request that was not built settles the run by its failure, and the world stays as it is
  have found : settled e.request [some (Http.send client.transport e.request world).1] =
      some (Http.send client.transport e.request world).1 := by
    cases h : e.request with
    | ok q => rfl
    | error f => rfl
  have items := m.returns.items_run e [some (Http.send client.transport e.request world).1]
  have told := m.returns.told_run e [some (Http.send client.transport e.request world).1]
  rw [found] at items told
  unfold call
  cases hr : m.returns with
  | void =>
    rw [hr] at items
    exact ⟨_, rfl, items.trans (congrArg (fun result => [Except.map Output.value result])
      (e.nothingFor_eq_map _))⟩
  | value type =>
    rw [hr] at items
    exact ⟨_, rfl, items⟩
  | info type =>
    rw [hr] at items
    exact ⟨_, rfl, items⟩
  | callback type =>
    rw [hr] at told
    exact ⟨_, fun c => rfl, told⟩
  | reactive item withInfo boxed =>
    rw [hr] at items
    cases withInfo with
    | false => exact ⟨_, rfl, items⟩
    | true => exact ⟨_, rfl, items⟩

/-! ### Sending and delivering once -/

/-- A method hands to the transport nothing but the request that it has built, and that once, when
it is polled. It delivers once, to its callback or as an item, and not after that. Performed at
once, it gives what it gives from poll to poll, with the answer and the world that the transport
leaves, or with the failure of its request and the world as it was. -/
theorem method_sends_and_delivers_once (client : Client σ) (arguments : Arguments)
    (m : MethodPlan) (answers : List Answer) :
    let request := m.request.build client.converters client.baseUrl arguments
    let run := m.returns.run (m.surroundings client arguments) answers
    (run.built = if m.returns.isAwaited ∧ answers = [] then [] else [request]) ∧
      (answers = [] → run.sent = []) ∧
      (∀ f, request = .error f → run.sent = []) ∧
      (∀ q, request = .ok q → answers ≠ [] → run.sent = [q]) ∧
      (run.session.isFinished ↔
        answers ≠ [] ∧ ∀ q, request = .ok q → ∃ answer, some answer ∈ answers) ∧
      (.ended ∈ run.replies → run.session.isFinished) ∧
      (run.told.length =
        if m.returns.tellsCallback ∧ run.session.isFinished then 1 else 0) ∧
      (run.items.length =
        if ¬m.returns.tellsCallback ∧ run.session.isFinished then 1 else 0) ∧
      (∀ q world, request = .ok q →
        let (answer, later) := client.transport q world
        (m.call client arguments).Gives world later
          (m.returns.run (m.surroundings client arguments) [some answer])) ∧
      ∀ f world, request = .error f →
        (m.call client arguments).Gives world world
          (m.returns.run (m.surroundings client arguments) [some (.error f)]) := by
  intro request run
  have sent : run.sent = ReturnShape.sends (m.surroundings client arguments) answers :=
    m.returns.sent_run _ answers
  have finished := m.returns.isFinished_run (m.surroundings client arguments) answers
  refine ⟨m.returns.built_run _ answers, fun none_yet => ?_, fun f failed => ?_,
    fun q built polled => ?_, ?_, fun ended => ?_, m.returns.length_told_run _ answers,
    m.returns.length_items_run _ answers, fun q world built => ?_, fun f world failed => ?_⟩
  · rw [sent, ReturnShape.sends, if_pos none_yet]
  · have none_built : (m.surroundings client arguments).request = .error f := failed
    rw [sent, ReturnShape.sends, none_built]
    exact ite_self []
  · have one_built : (m.surroundings client arguments).request = .ok q := built
    rw [sent, ReturnShape.sends, if_neg polled, one_built]
    rfl
  · rw [finished]
    exact settled_isSome_iff _ answers
  · rw [finished]
    exact (m.returns.comesTo_run _ answers).ended ended
  · have gives := m.call_gives client arguments world
    have one_built : (m.surroundings client arguments).request = .ok q := built
    simp only [one_built, Http.send_ok] at gives
    exact gives
  · have gives := m.call_gives client arguments world
    have none_built : (m.surroundings client arguments).request = .error f := failed
    simp only [none_built, Http.send_error] at gives
    exact gives

/-! ### Outcomes -/

namespace Surroundings

variable (e : Surroundings α)

/-- What a value with status and headers says of the value alone: both fail, there is a value, or
the response is not a success. -/
theorem infoFor_cases (answer : Except Failure Response) :
    (∃ f, e.infoFor answer = .error f ∧ e.valueFor answer = .error f) ∨
      (∃ info v, e.infoFor answer = .ok info ∧ (200 ≤ info.status ∧ info.status < 300) ∧
        info.body = some v ∧ info.errorBody = none ∧ e.valueFor answer = .ok v) ∨
      ∃ info octets, e.infoFor answer = .ok info ∧ ¬(200 ≤ info.status ∧ info.status < 300) ∧
        info.body = none ∧ info.errorBody = some octets ∧
        e.valueFor answer = .error (.status info.status octets) := by
  cases answer with
  | error f => exact .inl ⟨f, rfl, rfl⟩
  | ok response =>
    simp only [infoFor, valueFor, Except.bind, HttpInfo.ofResponse, Http.valueOf,
      Response.successBody]
    cases hs : Http.isSuccess response.status with
    | false =>
      have hcode : ¬(200 ≤ response.status ∧ response.status < 300) := by
        rw [← Http.isSuccess_iff, hs]
        exact Bool.false_ne_true
      exact .inr (.inr ⟨_, _, rfl, hcode, rfl, rfl, rfl⟩)
    | true =>
      have hcode := Http.isSuccess_iff.mp hs
      cases hr : e.read response.body with
      | error f => exact .inl ⟨f, by simp [Except.map], by simp [hr]⟩
      | ok v => exact .inr (.inl ⟨_, v, rfl, hcode, rfl, rfl, by simp [hr]⟩)

theorem valueFor_eq_ok_iff (answer : Except Failure Response) (v : α) :
    e.valueFor answer = .ok v ↔ ∃ info, e.infoFor answer = .ok info ∧ info.body = some v := by
  rcases e.infoFor_cases answer with
    ⟨f, hi, hv⟩ | ⟨info, w, hi, hs, hb, he, hv⟩ | ⟨info, octets, hi, hs, hb, he, hv⟩
  · simp [hi, hv]
  · simp [hi, hv, hb]
  · simp [hi, hv, hb]

theorem valueFor_eq_error_iff (answer : Except Failure Response) (f : Failure) :
    e.valueFor answer = .error f ↔ e.infoFor answer = .error f ∨
      ∃ info octets, e.infoFor answer = .ok info ∧ ¬(200 ≤ info.status ∧ info.status < 300) ∧
        info.errorBody = some octets ∧ f = .status info.status octets := by
  rcases e.infoFor_cases answer with
    ⟨g, hi, hv⟩ | ⟨info, w, hi, hs, hb, he, hv⟩ | ⟨info, octets, hi, hs, hb, he, hv⟩
  · simp [hi, hv]
  · rw [hi, hv]
    refine iff_of_false nofun ?_
    rintro (h | ⟨_, _, h, hnone, -, -⟩)
    · cases h
    · obtain rfl := Except.ok.inj h
      exact hnone hs
  · rw [hi, hv]
    constructor
    · intro h
      exact .inr ⟨info, octets, rfl, hs, he, (Except.error.inj h).symm⟩
    · rintro (h | ⟨_, _, h, -, hsame, rfl⟩)
      · cases h
      · obtain rfl := Except.ok.inj h
        obtain rfl := Option.some.inj (he.symm.trans hsame)
        rfl

/-- There is a value, or there are the octets of a response that is not a success. -/
theorem one_body_of_infoFor {answer : Except Failure Response} {info : HttpInfo α}
    (h : e.infoFor answer = .ok info) :
    (info.body.isSome ↔ 200 ≤ info.status ∧ info.status < 300) ∧
      (info.errorBody.isSome ↔ ¬(200 ≤ info.status ∧ info.status < 300)) := by
  rcases e.infoFor_cases answer with
    ⟨f, hi, -⟩ | ⟨info', v, hi, hs, hb, he, -⟩ | ⟨info', octets, hi, hs, hb, he, -⟩
  · rw [hi] at h
    cases h
  · obtain rfl : info' = info := Except.ok.inj (hi.symm.trans h)
    simp [hs, hb, he]
  · obtain rfl : info' = info := Except.ok.inj (hi.symm.trans h)
    simp [hs, hb, he]

/-- The ways to deliver agree on an outcome with status and headers, and on what that says of the
value alone. There is an outcome once a run is settled; a value comes from the body of a success,
and the body of a response that is not a success goes into the failure as it is. -/
structure Agree (answers : List Answer) (outcome : Option (Except Failure (HttpInfo α)))
    (value : Option (Except Failure α)) : Prop where
  settles : outcome.isSome ↔
    answers ≠ [] ∧ ∀ q, e.request = .ok q → ∃ answer, some answer ∈ answers
  infoItems (t) :
    ((ReturnShape.info t).run e answers).items = outcome.toList.map (Except.map .info)
  told (t) : ((ReturnShape.callback t).run e answers).told = outcome.toList
  infoStream (t boxed) : ((ReturnShape.reactive t true boxed).run e answers).items =
    outcome.toList.map (Except.map .info)
  valueItems (t) :
    ((ReturnShape.value t).run e answers).items = value.toList.map (Except.map .value)
  valueStream (t boxed) : ((ReturnShape.reactive t false boxed).run e answers).items =
    value.toList.map (Except.map .value)
  voidItems (t) : (ReturnShape.void.run e answers).items =
    ((ReturnShape.value t).run { e with read := fun _ => .ok e.nothing } answers).items
  ok_iff (v) : value = some (.ok v) ↔ ∃ info, outcome = some (.ok info) ∧ info.body = some v
  error_iff (f) : value = some (.error f) ↔ outcome = some (.error f) ∨
    ∃ info octets, outcome = some (.ok info) ∧ ¬(200 ≤ info.status ∧ info.status < 300) ∧
      info.errorBody = some octets ∧ f = .status info.status octets
  one_body (info) : outcome = some (.ok info) →
    (info.body.isSome ↔ 200 ≤ info.status ∧ info.status < 300) ∧
      (info.errorBody.isSome ↔ ¬(200 ≤ info.status ∧ info.status < 300))
  reads (r : ReturnShape) : (r.run e answers).bodiesRead = [] ∨
    ∃ response, answers.findSome? id = some (.ok response) ∧
      (200 ≤ response.status ∧ response.status < 300) ∧
        (r.run e answers).bodiesRead = [response.body]

/-- A body that is converted is that of the response, which is a success. -/
theorem bodiesRead_cases (answers : List Answer) (r : ReturnShape) :
    (r.run e answers).bodiesRead = [] ∨
      ∃ response, answers.findSome? id = some (.ok response) ∧
        (200 ≤ response.status ∧ response.status < 300) ∧
          (r.run e answers).bodiesRead = [response.body] := by
  rw [r.bodiesRead_run]
  cases h : settled e.request answers with
  | none => exact .inl rfl
  | some answer =>
    rw [Option.toList_some, List.flatMap_singleton]
    rcases r.reads_cases answer with hnil | ⟨response, rfl, hs, hone⟩
    · exact .inl hnil
    · exact .inr ⟨response, findSome?_of_settled h, Http.isSuccess_iff.mp hs, hone⟩

end Surroundings

/-- Whatever becomes of the request and of the conversion, one outcome is behind all the ways to
deliver it. It is what the answer says that the run goes by. -/
theorem conventions_agree (e : Surroundings α) (answers : List Answer) :
    e.Agree answers ((settled e.request answers).map e.infoFor)
      ((settled e.request answers).map e.valueFor) := by
  refine ⟨?_, fun t => ?_, fun t => ?_, fun t boxed => ?_, fun t => ?_, fun t boxed => ?_,
    fun t => ?_, fun v => ?_, fun f => ?_, fun info => ?_, e.bodiesRead_cases answers⟩
  · rw [Option.isSome_map]
    exact settled_isSome_iff e.request answers
  · rw [ReturnShape.items_run]
    cases settled e.request answers <;> rfl
  · rw [ReturnShape.told_run]
    cases settled e.request answers <;> rfl
  · rw [ReturnShape.items_run]
    cases settled e.request answers <;> rfl
  · rw [ReturnShape.items_run]
    cases settled e.request answers <;> rfl
  · rw [ReturnShape.items_run]
    cases settled e.request answers <;> rfl
  · rw [ReturnShape.items_run, ReturnShape.items_run]
    cases settled e.request answers with
    | none => rfl
    | some answer =>
      exact congrArg (fun result => [Except.map Output.value result])
        (e.nothingFor_eq_valueFor answer)
  · cases settled e.request answers with
    | none => simp
    | some answer => simp [e.valueFor_eq_ok_iff]
  · cases settled e.request answers with
    | none => simp
    | some answer => simp [e.valueFor_eq_error_iff]
  · cases settled e.request answers with
    | none => simp
    | some answer => exact fun h => e.one_body_of_infoFor (Option.some.inj h)

/-- A stream that is polled before its answer is there, and once more after its item. -/
example (read : Http.BodyReader α) (nothing : α) (request : Request) (t : Code.TypeExpr) :
    ((ReturnShape.reactive t false false).run ⟨.ok request, read, nothing⟩
        [none, some (.ok (.of 404 [] [0x6e])), none]).replies =
      [.pending, .item (.error (.status 404 [0x6e])), .ended] := by
  rfl

end RestClient
