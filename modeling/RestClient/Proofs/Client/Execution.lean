import RestClient.Proofs.Client.Closures
import RestClient.Proofs.Client.Construction
import RestClient.Proofs.Client.Sessions

/-!
# Bodies that run

The body of a method does what its plan says: it starts, and what it leaves is polled, like the
session of the way to deliver. Every statement is a block of the plan as code, and the names that
statements leave behind are found by the later ones, also by what runs in the background.

## Main definitions

- `MethodPlan.names` — the parameters of a method, as the code of its body knows them
- `MethodPlan.answered`, `MethodPlan.detachedScope` — the names behind an exchange, and behind the
  statements that run at once

## Main results

- `MethodPlan.start?_body` — the body of a method is what the way to deliver says
- `ofMethod_body_runs` — so is that of every accepted method, where its names are apart
-/

namespace RestClient

open Code (Method TypeExpr plainName)
open Http (Block Failure HttpInfo Request Response ResponseBody Routine)
open Json (Content)

variable {α β γ : Type}

@[simp]
theorem CodeFault.settle?_mapError (x : Except Failure α) :
    settle? (x.mapError .failed) = some x := by
  cases x <;> rfl

/-! ### Routines -/

namespace Http.Routine

theorem andThen_done (x : Routine α β) : x.andThen done = x := by
  induction x with
  | done result => rfl
  | happens event rest ih => exact congrArg (happens event) ih
  | await rest ih => exact congrArg await (funext ih)

theorem andThen_assoc {δ : Type} (x : Routine α β) (f : β → Routine α γ) (g : γ → Routine α δ) :
    (x.andThen f).andThen g = x.andThen fun b => (f b).andThen g := by
  induction x with
  | done result => rfl
  | happens event rest ih => exact congrArg (happens event) ih
  | await rest ih => exact congrArg await (funext ih)

instance : LawfulMonad (Routine α) :=
  LawfulMonad.mk' _ andThen_done (fun _ _ => rfl) andThen_assoc

end Http.Routine

/-! ### Blocks as code -/

namespace Execution

theorem ofBlock_bind (x : Block Content β) (f : β → Block Content γ) :
    ofBlock (x >>= f) = ofBlock x >>= fun b => ofBlock (f b) := by
  refine ExceptT.ext ?_
  simp only [ofBlock, ExceptT.run_bind, ExceptT.run_mk, map_bind, bind_map_left]
  refine congrArg _ (funext fun result => ?_)
  cases result <;> rfl

@[simp]
theorem ofBlock_pure (b : β) : ofBlock (pure b) = pure b :=
  rfl

theorem ofBlock_liftM (x : Except Failure β) : ofBlock (liftM x) = ofResult x := by
  cases x <;> rfl

end Execution

namespace Surroundings

/-- The block whose outcome a callback is told. -/
def exchange (e : Surroundings α) (built : Except Failure Request) : Block α (HttpInfo α) := do
  let request ← built
  let response ← Block.execute request
  e.infoOf response

theorem streamInfo_eq (e : Surroundings α) (built : Except Failure Request) :
    e.streamInfo built = e.exchange built >>= fun info => pure (.info info) := by
  simp [streamInfo, exchange]

theorem notify_eq_bind (e : Surroundings α) (built : Except Failure Request) :
    e.notify built = (e.exchange built).run >>= fun outcome =>
      .happens (.ofOutcome outcome) (.done ()) := by
  refine bind_congr fun outcome => ?_
  cases outcome <;> rfl

end Surroundings

/-! ### Expressions of a method -/

section Methods

variable {σ : Type} {converters : Converters} {baseUrl : String} {scope : LocalScope}
  {e : Surroundings Content}

open Execution

/-- An expression converts the body that its name stands for. -/
theorem BodyExpr.run_eq {x : BodyExpr} {body : ResponseBody}
    (hbody : scope.value? x.body = some (.body body))
    (hreader : x.reader? converters scope = some e.read) :
    x.run converters scope = ofBlock (e.convert body) := by
  rw [run, hbody, hreader, Surroundings.convert, ofBlock_bind, ofBlock_liftM]

theorem SuccessExpr.run_eq {x : SuccessExpr} {response : Response}
    (hresponse : scope.value? x.response = some (.response response))
    (hvalue : ∀ body, x.value.run converters (scope.naming x.body (.body body)) =
      ofBlock (e.convert body)) :
    x.run converters scope = ofBlock (e.successValue response) := by
  rw [run, hresponse, Surroundings.successValue, ofBlock_bind, ofBlock_liftM]
  exact bind_congr hvalue

theorem InfoExpr.run_eq {x : InfoExpr} {response : Response}
    (hresponse : scope.value? x.response = some (.response response))
    (hvalue : ∀ body, x.value.run converters (scope.naming x.body (.body body)) =
      ofBlock (e.convert body)) :
    x.run converters scope = ofBlock (e.infoOf response) := by
  rw [run, hresponse, Surroundings.infoOf]
  simp only [hvalue]
  cases Http.isSuccess response.status with
  | false => rfl
  | true =>
    rw [if_pos rfl, if_pos rfl, ofBlock_bind]
    rfl

namespace MethodPlan

variable {m : MethodPlan} {inBackground : Bool} {type : TypeExpr} {response : Response}

theorem body_bodyExpr : (m.bodyExpr inBackground type).body = m.locals.body := by
  unfold bodyExpr
  cases m.response <;> rfl

/-- Where the converter is found under its name in the background: a clone has been made of it. -/
def Cloned (m : MethodPlan) (scope : LocalScope) : Prop :=
  ∀ field, m.response = .converted field →
    scope.value? m.locals.converter = some (.shared field)

theorem reader?_bodyExpr (h : inBackground = true → m.Cloned scope) :
    (m.bodyExpr inBackground type).reader? converters scope =
      some (m.response.reader converters) := by
  unfold bodyExpr
  cases hr : m.response with
  | converted field =>
    cases inBackground with
    | false => rfl
    | true => simp [BodyExpr.reader?, Shared.field?, h rfl field hr, ResponsePlan.reader]
  | unit | text | octets => rfl

/-- A method converts a body as it is planned. The name of the body does not hide the clone. -/
theorem run_bodyExpr {parameters : List String} (hl : m.locals.Hygienic parameters)
    (hread : e.read = m.response.reader converters) (inBackground : Bool) (type : TypeExpr)
    (h : inBackground = true → m.Cloned scope) (body : ResponseBody) :
    (m.bodyExpr inBackground type).run converters (scope.naming m.locals.body (.body body)) =
      ofBlock (e.convert body) := by
  have hbody : plainName m.locals.converter ≠ plainName m.locals.body :=
    hl.ne 5 3 rfl rfl (by decide)
  refine BodyExpr.run_eq ?_ ?_
  · rw [body_bodyExpr, LocalScope.value?_naming_self]
  · rw [hread, reader?_bodyExpr]
    intro hback field hfield
    rw [LocalScope.value?_naming_of_ne hbody, h hback field hfield]

/-! ### Statements of a method -/

theorem runAll_cons (s : MethodStatement) (rest : List MethodStatement) :
    MethodStatement.runAll converters baseUrl (s :: rest) scope =
      s.run converters baseUrl scope >>= MethodStatement.runAll converters baseUrl rest :=
  List.foldlM_cons ..

theorem runAll_append (front rest : List MethodStatement) :
    MethodStatement.runAll converters baseUrl (front ++ rest) scope =
      MethodStatement.runAll converters baseUrl front scope >>=
        MethodStatement.runAll converters baseUrl rest :=
  List.foldlM_append ..

/-- The names of a request and of the response to it. -/
def answered (m : MethodPlan) (scope : LocalScope) (request : Request) (response : Response) :
    LocalScope :=
  (scope.naming m.locals.request (.request request)).naming m.locals.response (.response response)

theorem runAll_exchange {transport : Shared} {request : Request}
    (htransport : transport.field? (scope.naming m.locals.request (.request request)) =
      some "http_client") :
    MethodStatement.runAll converters baseUrl (m.exchange transport)
        (scope.naming m.locals.request (.request request)) =
      ofBlock (Block.execute request) >>= fun response =>
        return m.answered scope request response := by
  simp [exchange, MethodStatement.runAll, MethodStatement.run, htransport, answered]

/-- A method that waits builds its request and sends it. -/
theorem runAll_waiting (hclosure : (m.request.closure m.locals).run converters baseUrl scope =
      e.request.mapError .failed) :
    MethodStatement.runAll converters baseUrl m.waiting scope =
      ofBlock e.build >>= fun request =>
        ofBlock (Block.execute request) >>= fun response =>
          return m.answered scope request response := by
  simp only [waiting, runAll_cons, MethodStatement.run, hclosure, CodeFault.settle?_mapError,
    Surroundings.build, ofBlock_bind, ofBlock_liftM, bind_assoc, pure_bind, if_true]
  exact bind_congr fun _ => bind_congr fun request => runAll_exchange rfl

/-- The names behind the statements that run at once. -/
def detachedScope (m : MethodPlan) (built : Except Failure Request) (scope : LocalScope) :
    LocalScope :=
  let l := m.locals
  let common := (scope.naming l.request (.built built)).naming l.httpClient (.shared "http_client")
  match m.response with
  | .converted field => common.naming l.converter (.shared field)
  | _ => common

/-- The statements that run at once build the request, and take what is shared out of the client. -/
theorem runAtOnce?_detached (hclosure : (m.request.closure m.locals).run converters baseUrl scope =
      e.request.mapError .failed) :
    MethodStatement.runAtOnce? converters baseUrl m.detached scope =
      some ([.built e.request], m.detachedScope e.request scope) := by
  unfold MethodStatement.runAtOnce? detached detachedScope
  cases m.response <;>
    simp only [MethodStatement.runAll, List.cons_append, List.foldlM_cons, MethodStatement.run,
      hclosure, CodeFault.settle?_mapError] <;>
    rfl

theorem value?_detachedScope {name : String} {built : Except Failure Request}
    (hrequest : plainName name ≠ plainName m.locals.request)
    (hclient : plainName name ≠ plainName m.locals.httpClient)
    (hconverter : plainName name ≠ plainName m.locals.converter) :
    (m.detachedScope built scope).value? name = scope.value? name := by
  unfold detachedScope
  cases m.response <;>
    simp only [LocalScope.value?_naming_of_ne hrequest, LocalScope.value?_naming_of_ne hclient,
      LocalScope.value?_naming_of_ne hconverter]

variable {parameters : List String} (hl : m.locals.Hygienic parameters)
include hl

/-- What stands under a local behind the statements that run at once. -/
theorem value?_request_detachedScope (built : Except Failure Request) :
    (m.detachedScope built scope).value? m.locals.request = some (.built built) := by
  have hclient : plainName m.locals.request ≠ plainName m.locals.httpClient :=
    hl.ne 1 4 rfl rfl (by decide)
  have hconverter : plainName m.locals.request ≠ plainName m.locals.converter :=
    hl.ne 1 5 rfl rfl (by decide)
  unfold detachedScope
  cases m.response <;>
    simp only [LocalScope.value?_naming_of_ne hclient, LocalScope.value?_naming_of_ne hconverter,
      LocalScope.value?_naming_self]

theorem value?_httpClient_detachedScope (built : Except Failure Request) :
    (m.detachedScope built scope).value? m.locals.httpClient = some (.shared "http_client") := by
  have hconverter : plainName m.locals.httpClient ≠ plainName m.locals.converter :=
    hl.ne 4 5 rfl rfl (by decide)
  unfold detachedScope
  cases m.response <;>
    simp only [LocalScope.value?_naming_of_ne hconverter, LocalScope.value?_naming_self]

/-- The clone of the converter is found where the response is. -/
theorem cloned_answered (built : Except Failure Request) (request : Request) (response : Response) :
    m.Cloned (m.answered (m.detachedScope built scope) request response) := by
  have hresponse : plainName m.locals.converter ≠ plainName m.locals.response :=
    hl.ne 5 2 rfl rfl (by decide)
  have hrequest : plainName m.locals.converter ≠ plainName m.locals.request :=
    hl.ne 5 1 rfl rfl (by decide)
  intro field hfield
  rw [answered, LocalScope.value?_naming_of_ne hresponse, LocalScope.value?_naming_of_ne hrequest,
    detachedScope, hfield]
  exact LocalScope.value?_naming_self

/-- A method in the background sends the request that was built before. -/
theorem runAll_background (built : Except Failure Request) :
    MethodStatement.runAll converters baseUrl m.background (m.detachedScope built scope) =
      ofResult built >>= fun request =>
        ofBlock (Block.execute request) >>= fun response =>
          return m.answered (m.detachedScope built scope) request response := by
  have hclient : plainName m.locals.httpClient ≠ plainName m.locals.request :=
    hl.ne 4 1 rfl rfl (by decide)
  simp only [background, runAll_cons, MethodStatement.run, value?_request_detachedScope hl,
    bind_assoc, pure_bind]
  refine bind_congr fun request => runAll_exchange ?_
  rw [Shared.field?, LocalScope.value?_naming_of_ne hclient, value?_httpClient_detachedScope hl]

/-! ### Blocks of a method -/

omit hl in
theorem value?_answered_response (scope : LocalScope) (request : Request) (response : Response) :
    (m.answered scope request response).value? m.locals.response = some (.response response) :=
  LocalScope.value?_naming_self

variable (hread : e.read = m.response.reader converters)
include hread

theorem run_successExpr (inBackground : Bool) (type : TypeExpr)
    (h : inBackground = true → m.Cloned scope)
    (hresponse : scope.value? m.locals.response = some (.response response)) :
    (m.successExpr inBackground type).run converters scope = ofBlock (e.successValue response) :=
  SuccessExpr.run_eq hresponse (run_bodyExpr hl hread inBackground type h)

theorem run_infoExpr (inBackground : Bool) (type : TypeExpr)
    (h : inBackground = true → m.Cloned scope)
    (hresponse : scope.value? m.locals.response = some (.response response)) :
    (m.infoExpr inBackground type).run converters scope = ofBlock (e.infoOf response) :=
  InfoExpr.run_eq hresponse (run_bodyExpr hl hread inBackground type h)

section Awaited

variable (hclosure : (m.request.closure m.locals).run converters baseUrl scope =
  e.request.mapError .failed)
include hclosure

omit hl hread in
theorem run_awaitUnit (hnothing : e.nothing = .null) :
    MethodBlock.run converters baseUrl scope ⟨m.waiting ++ [.success m.locals.response], .unit⟩ =
      ofBlock e.awaitUnit := by
  simp only [MethodBlock.run, runAll_append, runAll_waiting hclosure, Surroundings.awaitUnit,
    ofBlock_bind, bind_assoc, pure_bind]
  refine bind_congr fun request => bind_congr fun response => ?_
  simp [MethodStatement.runAll, MethodStatement.run, value?_answered_response, BlockEnd.run,
    ofBlock_liftM, hnothing]

theorem run_awaitValue (type : TypeExpr) :
    MethodBlock.run converters baseUrl scope ⟨m.waiting, .value (m.successExpr false type)⟩ =
      ofBlock e.awaitValue := by
  simp only [MethodBlock.run, runAll_waiting hclosure, Surroundings.awaitValue, ofBlock_bind,
    bind_assoc, pure_bind, BlockEnd.run]
  refine bind_congr fun request => bind_congr fun response => ?_
  rw [run_successExpr hl hread false type nofun (value?_answered_response scope request response)]
  rfl

theorem run_awaitInfo (type : TypeExpr) :
    MethodBlock.run converters baseUrl scope
        ⟨m.waiting ++ [.info m.locals.info (m.infoExpr false type)], .named m.locals.info⟩ =
      ofBlock e.awaitInfo := by
  simp only [MethodBlock.run, runAll_append, runAll_waiting hclosure, Surroundings.awaitInfo,
    ofBlock_bind, bind_assoc, pure_bind]
  refine bind_congr fun request => bind_congr fun response => ?_
  have hinfo :=
    run_infoExpr hl hread false type nofun (value?_answered_response scope request response)
  simp [MethodStatement.runAll, MethodStatement.run, hinfo, BlockEnd.run]

end Awaited

theorem run_streamInfo (type : TypeExpr) (built : Except Failure Request) :
    MethodBlock.run converters baseUrl (m.detachedScope built scope)
        ⟨m.background, .info (m.infoExpr true type)⟩ = ofBlock (e.streamInfo built) := by
  simp only [MethodBlock.run, runAll_background hl, Surroundings.streamInfo, ofBlock_bind,
    ofBlock_liftM, bind_assoc, pure_bind, BlockEnd.run]
  refine bind_congr fun request => bind_congr fun response => ?_
  rw [run_infoExpr hl hread true type (fun _ => cloned_answered hl built request response)
    (value?_answered_response _ request response)]
  rfl

theorem run_streamValue (type : TypeExpr) (built : Except Failure Request) :
    MethodBlock.run converters baseUrl (m.detachedScope built scope)
        ⟨m.background, .typed type (m.successExpr true type)⟩ = ofBlock (e.streamValue built) := by
  simp only [MethodBlock.run, runAll_background hl, Surroundings.streamValue, ofBlock_bind,
    ofBlock_liftM, bind_assoc, pure_bind, BlockEnd.run]
  refine bind_congr fun request => bind_congr fun response => ?_
  rw [run_successExpr hl hread true type (fun _ => cloned_answered hl built request response)
    (value?_answered_response _ request response)]
  rfl

/-- The block of a method that tells a callback comes to the outcome that the callback is told. -/
theorem outcome_background (type : TypeExpr) (built : Except Failure Request) :
    MethodBlock.outcome converters baseUrl (m.detachedScope built scope)
        ⟨m.background, .info (m.infoExpr true type)⟩ =
      ExceptT.lift (e.exchange built).run := by
  refine ExceptT.ext ?_
  rw [MethodBlock.outcome, run_streamInfo hl hread, Surroundings.streamInfo_eq, ofBlock]
  simp only [ExceptT.run_mk, ExceptT.run_lift, ExceptT.run_bind, map_bind, bind_map_left,
    bind_assoc]
  rw [map_eq_pure_bind]
  refine bind_congr fun result => ?_
  cases result <;> rfl

omit hread in
/-- The arm for an outcome tells the callback of it. -/
theorem select_arm (hcallback : scope.value? m.callback = some .callback)
    (hparameter : m.callback ∈ parameters) (built : Except Failure Request)
    (outcome : Except Failure (HttpInfo Content)) :
    CallbackArm.select ((m.detachedScope built scope).naming m.locals.outcome (.outcome outcome))
        m.locals.outcome ⟨m.locals.info, "on_success", m.callback⟩
        ⟨m.locals.error, "on_failure", m.callback⟩ =
      ofBlock (Block.happens (.ofOutcome outcome)) := by
  have hne (x : String) (hx : x ∈ m.locals.toList) : plainName m.callback ≠ plainName x :=
    (hl.apart x hx _ hparameter).symm
  have hkept (x : String) (hx : x ∈ m.locals.toList) (v : LocalValue) :
      (((m.detachedScope built scope).naming m.locals.outcome (.outcome outcome)).naming x
        v).value? m.callback = some .callback := by
    rw [LocalScope.value?_naming_of_ne (hne x hx),
      LocalScope.value?_naming_of_ne (hne _ (by simp [Locals.toList])),
      value?_detachedScope (hne _ (by simp [Locals.toList])) (hne _ (by simp [Locals.toList]))
        (hne _ (by simp [Locals.toList])), hcallback]
  rw [CallbackArm.select, LocalScope.value?_naming_self]
  cases outcome with
  | ok info =>
    simp only [CallbackArm.run, hkept m.locals.info (by simp [Locals.toList]),
      LocalScope.value?_naming_self]
    rfl
  | error f =>
    simp only [CallbackArm.run, hkept m.locals.error (by simp [Locals.toList]),
      LocalScope.value?_naming_self]
    rfl

end MethodPlan

end Methods

/-! ### Bodies of methods -/

namespace MethodPlan

variable {σ : Type} {arguments : Arguments} {m : MethodPlan}

/-- The parameters of a method that its body knows, the callback among them. -/
def names (m : MethodPlan) : List String :=
  m.request.parameters.map ParameterPlan.parameter ++
    (match m.returns with
    | .callback _ => [m.callback]
    | _ => [])

theorem map_fst_scope : (m.scope arguments).map Prod.fst = m.names.map plainName := by
  unfold scope names
  cases m.returns <;> simp

theorem value?_parameter (hnames : (m.names.map plainName).Nodup) {p : ParameterPlan}
    (hp : p ∈ m.request.parameters) :
    (m.scope arguments).value? p.parameter = some (.argument (arguments p.parameter)) := by
  refine lookup_eq_some_of_nodup (by rwa [map_fst_scope]) ?_
  exact List.mem_append_left _ (List.mem_map_of_mem (f := fun p : ParameterPlan =>
    (plainName p.parameter, LocalValue.argument (arguments p.parameter))) hp)

theorem value?_callback (arguments : Arguments) (hnames : (m.names.map plainName).Nodup)
    {type : TypeExpr} (hr : m.returns = .callback type) :
    (m.scope arguments).value? m.callback = some .callback := by
  refine lookup_eq_some_of_nodup (by rwa [map_fst_scope]) ?_
  simp [scope, hr]

/-- The body of a method is what the way to deliver says: it does the same when it is called, and
what it leaves is polled alike. -/
theorem start?_body (client : Client σ) (hfits : ∀ p ∈ m.request.parameters, p.Fits)
    (hnames : (m.names.map plainName).Nodup) (hl : m.locals.Hygienic m.names)
    (hshapes : ∀ p ∈ m.request.parameters, (arguments p.parameter).shape = p.shape) :
    ∃ session,
      m.body.start? client.converters client.baseUrl (m.scope arguments) =
          some ((m.returns.start (m.surroundings client arguments)).1, session) ∧
        session.Means (m.returns.start (m.surroundings client arguments)).2 := by
  have hclosure : (m.request.closure m.locals).run client.converters client.baseUrl
      (m.scope arguments) = (m.surroundings client arguments).request.mapError .failed := by
    refine RequestPlan.run_closure hfits ⟨hl.distinct, ?_⟩ (fun p => value?_parameter hnames)
      hshapes
    exact fun x hx p hp => hl.apart x hx p (List.mem_append_left _ hp)
  have hread :
      (m.surroundings client arguments).read = m.response.reader client.converters := rfl
  have hdetached := runAtOnce?_detached hclosure
  unfold body
  cases hr : m.returns with
  | void => exact ⟨_, rfl, congrArg ExceptT.run (run_awaitUnit hclosure rfl)⟩
  | value type => exact ⟨_, rfl, congrArg ExceptT.run (run_awaitValue hl hread hclosure type)⟩
  | info type => exact ⟨_, rfl, congrArg ExceptT.run (run_awaitInfo hl hread hclosure type)⟩
  | reactive item withInfo boxed =>
    cases withInfo with
    | true =>
      refine ⟨_, by rw [MethodBody.start?, hdetached]; rfl, ?_⟩
      exact congrArg ExceptT.run (run_streamInfo hl hread item _)
    | false =>
      refine ⟨_, by rw [MethodBody.start?, hdetached]; rfl, ?_⟩
      exact congrArg ExceptT.run (run_streamValue hl hread item _)
  | callback type =>
    have hcallback := value?_callback arguments hnames hr
    have hmember : m.callback ∈ m.names := by simp [names, hr]
    refine ⟨_, by rw [MethodBody.start?, hdetached]; rfl, ?_⟩
    show ExceptT.run _ = Except.ok <$> Surroundings.notify _ _
    rw [outcome_background hl hread, Surroundings.notify_eq_bind]
    simp only [select_arm hl hcallback hmember, ExceptT.run_bind, ExceptT.run_lift, map_bind,
      bind_map_left]
    rfl

end MethodPlan

/-! ### Methods that are accepted -/

/-- Where a role takes bodies, values are converted to bodies, and to texts elsewhere. -/
theorem makesBody_of_conversionOf {plan : ConverterPlan} {p : ParameterDescriptor}
    {conversion : Conversion} (h : conversionOf plan p = .ok conversion) :
    conversion.makesBody = p.role.kind.takesBody := by
  unfold conversionOf at h
  cases hk : p.role.kind with
  | url =>
    rw [hk] at h
    obtain rfl := Except.ok.inj h
    rfl
  | body | part | partMap =>
    rw [hk] at h
    dsimp only at h
    cases hform : bodyForm p.valueType with
    | octets | text =>
      rw [hform] at h
      obtain rfl := Except.ok.inj h
      rfl
    | converted =>
      rw [hform] at h
      obtain ⟨_, _, rfl⟩ := Outcome.map_eq_ok.mp h
      rfl
  | _ =>
    rw [hk] at h
    dsimp only at h
    split at h
    · obtain rfl := Except.ok.inj h
      rfl
    · obtain ⟨_, _, rfl⟩ := Outcome.map_eq_ok.mp h
      rfl

theorem MethodPlan.eq_of_ofMethod {plan : ConverterPlan} {traitName : String} {locals : Locals}
    {d : MethodDescriptor} {m : MethodPlan} (h : ofMethod plan traitName locals d = .ok m) :
    RequestPlan.ofMethod plan d = .ok m.request ∧ m.returns = d.returns ∧
      m.callback = (d.callback.map CallbackDescriptor.name).getD "" ∧ m.locals = locals := by
  unfold ofMethod at h
  obtain ⟨request, hrequest, h⟩ := Outcome.bind_eq_ok.mp h
  dsimp only at h
  split at h
  · cases h
  · obtain ⟨callback, hcallback, h⟩ := Outcome.bind_eq_ok.mp h
    obtain rfl := Except.ok.inj hcallback
    split at h <;>
      (obtain ⟨response, _, h⟩ := Outcome.bind_eq_ok.mp h
       obtain rfl := Except.ok.inj h
       exact ⟨hrequest, rfl, rfl, rfl⟩)

section Accepted

variable {method : Method} {d : MethodDescriptor} {plan : ConverterPlan}

theorem Analyzed.fits (a : Analyzed method d) {r : RequestPlan}
    (hr : RequestPlan.ofMethod plan d = .ok r) : ∀ q ∈ r.parameters, q.Fits := by
  obtain ⟨qs, hqs, rfl⟩ := RequestPlan.ofMethod_eq_ok.mp hr
  intro q hq
  obtain ⟨p, hp, hplanned⟩ := Outcome.exists_of_forall₂ hqs hq
  obtain ⟨conversion, hconversion, rfl⟩ := Outcome.map_eq_ok.mp hplanned
  exact ⟨makesBody_of_conversionOf hconversion, classify_map_iff (a.inputs.classified hp),
    fun hk => a.shape_single hp (by rw [hk]; rfl)⟩

/-- A parameter in the plan of a request is one of the method, under the same name and shape. -/
theorem exists_parameter_of_ofMethod {r : RequestPlan} (hr : RequestPlan.ofMethod plan d = .ok r)
    {q : ParameterPlan} (hq : q ∈ r.parameters) :
    ∃ p ∈ d.parameters, q.parameter = p.name ∧ q.shape = p.shape := by
  obtain ⟨qs, hqs, rfl⟩ := RequestPlan.ofMethod_eq_ok.mp hr
  obtain ⟨p, hp, hplanned⟩ := Outcome.exists_of_forall₂ hqs hq
  obtain ⟨_, _, rfl⟩ := Outcome.map_eq_ok.mp hplanned
  exact ⟨p, hp, rfl, rfl⟩

theorem map_parameter_of_ofMethod {r : RequestPlan} (hr : RequestPlan.ofMethod plan d = .ok r) :
    r.parameters.map ParameterPlan.parameter = d.parameters.map ParameterDescriptor.name := by
  obtain ⟨qs, hqs, rfl⟩ := RequestPlan.ofMethod_eq_ok.mp hr
  dsimp only
  clear hr
  generalize d.parameters = ps at hqs ⊢
  induction hqs with
  | nil => rfl
  | cons hq _ ih =>
    obtain ⟨_, _, rfl⟩ := Outcome.map_eq_ok.mp hq
    rw [List.map_cons, List.map_cons, ih]

theorem Analyzed.names_eq (a : Analyzed method d) {traitName : String} {locals : Locals}
    {m : MethodPlan} (hm : MethodPlan.ofMethod plan traitName locals d = .ok m) :
    m.names = d.parameterNames := by
  obtain ⟨hr, hreturns, hcallback, _⟩ := MethodPlan.eq_of_ofMethod hm
  have hiff := returnShape_callback a.returns
  rw [MethodPlan.names, MethodDescriptor.parameterNames, map_parameter_of_ofMethod hr, hreturns,
    hcallback]
  refine congrArg _ ?_
  cases hc : d.callback with
  | none =>
    rw [hc] at hiff
    cases hret : d.returns with
    | callback item => simpa using (hiff item).mp hret
    | _ => rfl
  | some c =>
    rw [hc] at hiff
    rw [(hiff c.item).mpr ⟨c.name, rfl⟩]
    rfl

/-- The code of an accepted method, in whose body no name hides another, does what its plan does:
the closure builds the request, and the body starts and is polled as the way to deliver says. -/
theorem ofMethod_body_runs {σ : Type} (hd : analyzeMethod method = .ok d) {traitName : String}
    {locals : Locals} {m : MethodPlan} (hm : MethodPlan.ofMethod plan traitName locals d = .ok m)
    (hnames : (d.parameterNames.map plainName).Nodup) (hlocals : locals.Hygienic d.parameterNames)
    (client : Client σ) {arguments : Arguments}
    (hshapes : ∀ p ∈ d.parameters, (arguments p.name).shape = p.shape) :
    ∃ session,
      m.body.start? client.converters client.baseUrl (m.scope arguments) =
          some ((m.returns.start (m.surroundings client arguments)).1, session) ∧
        session.Means (m.returns.start (m.surroundings client arguments)).2 := by
  obtain ⟨a⟩ := analyzeMethod_eq_ok.mp hd
  obtain ⟨hr, _, _, rfl⟩ := MethodPlan.eq_of_ofMethod hm
  rw [← a.names_eq hm] at hnames hlocals
  refine MethodPlan.start?_body client (a.fits hr) hnames hlocals fun q hq => ?_
  obtain ⟨p, hp, hname, hshape⟩ := exists_parameter_of_ofMethod hr hq
  rw [hname, hshape, hshapes p hp]

end Accepted

end RestClient
