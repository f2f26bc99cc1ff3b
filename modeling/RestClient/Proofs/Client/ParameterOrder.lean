import RestClient.Proofs.Client.Contributions
import RestClient.Proofs.Http.Interleaving

/-!
# Parameters in another order

Each parameter writes to one channel of the builder, and the channels do not know of each other. So
it does not matter for the request in which order parameters are declared that write to different
channels.

## Main results

- `RequestPlan.build_of_sameByChannel` — a plan whose parameters stand in another order
- `request_independent_of_order` — contributions and parameters in another order
-/

namespace RestClient

open Http (Channel Contribution Failure Request RequestBuilder SameByChannel)

/-! ### What parameters write -/

/-- The channel that a planned parameter writes to. -/
def ParameterPlan.channel (q : ParameterPlan) : Channel :=
  q.role.kind.channel

/-- The channel that a declared parameter writes to. -/
def ParameterDescriptor.channel (p : ParameterDescriptor) : Channel :=
  p.role.kind.channel

theorem ParameterPlan.channel_of_contribute {converters : Converters} {q : ParameterPlan}
    {name : String} {value : Json.Content} {c : Contribution}
    (h : q.contribute converters name value = .ok c) : c.channel = q.channel := by
  unfold contribute at h
  unfold channel
  cases hk : q.role.kind <;> rw [hk] at h <;> obtain ⟨_, _, rfl⟩ := Outcome.map_eq_ok.mp h <;> rfl

theorem ParameterPlan.channel_of_mem {converters : Converters} {q : ParameterPlan} {a : Argument}
    {c : Contribution} (h : c ∈ converted (q.contributions converters a)) :
    c.channel = q.channel := by
  obtain ⟨_, _, hc⟩ := List.mem_map.mp (mem_converted.mp h)
  exact channel_of_contribute hc

theorem ParameterPlan.channel_of_ofDescriptor {plan : ConverterPlan} {p : ParameterDescriptor}
    {q : ParameterPlan} (h : ParameterPlan.ofDescriptor plan p = .ok q) :
    q.channel = p.channel := by
  obtain ⟨_, _, rfl⟩ := Outcome.map_eq_ok.mp h
  rfl

/-- Contributions that could all be converted. -/
theorem map_ok_converted {contributions : List (Except Failure Contribution)}
    (h : ∀ e ∈ contributions, ∃ c, e = .ok c) :
    contributions = (converted contributions).map .ok := by
  induction contributions with
  | nil => rfl
  | cons e rest ih =>
    obtain ⟨c, rfl⟩ := h e List.mem_cons_self
    exact congrArg (Except.ok c :: ·) (ih fun d hd => h d (List.mem_cons_of_mem _ hd))

namespace RequestPlan

variable {converters : Converters} {arguments : Arguments} {baseUrl : String} {r : RequestPlan}
  {qs : List ParameterPlan} {request : Request}

/-- A plan whose contributions could all be converted makes what becomes of them. -/
theorem build_eq_outcome {calls : List Contribution}
    (h : r.contributions converters arguments = calls.map .ok) :
    r.build converters baseUrl arguments =
      (RequestBuilder.new r.verb baseUrl r.template r.encoding).outcome calls := by
  rw [build, h, List.foldlM_map]
  rfl

/-- A plan that makes a request has converted all contributions. -/
theorem contributions_of_build (h : r.build converters baseUrl arguments = .ok request) :
    r.contributions converters arguments =
      (converted (r.contributions converters arguments)).map .ok := by
  obtain ⟨b, hb, _⟩ := Outcome.bind_eq_ok.mp h
  obtain ⟨calls, hcalls, _⟩ := RequestBuilder.foldlM_add_eq_ok hb
  rw [hcalls, converted_map_ok]

theorem mem_contributions_of_sameByChannel
    (h : SameByChannel ParameterPlan.channel r.parameters qs) {e : Except Failure Contribution}
    (he : e ∈ { r with parameters := qs }.contributions converters arguments) :
    e ∈ r.contributions converters arguments := by
  rcases List.mem_append.mp he with he | he
  · exact List.mem_append_left _ he
  · obtain ⟨q, hq, he⟩ := List.mem_flatMap.mp he
    exact List.mem_append_right _ (List.mem_flatMap.mpr ⟨q, (h.mem_iff q).mpr hq, he⟩)

/-- Parameters in another order contribute the same to every channel. -/
theorem contributions_sameByChannel (h : SameByChannel ParameterPlan.channel r.parameters qs) :
    SameByChannel Contribution.channel (converted (r.contributions converters arguments))
      (converted ({ r with parameters := qs }.contributions converters arguments)) := by
  unfold contributions converted
  rw [List.filterMap_append, List.filterMap_append, List.filterMap_flatMap, List.filterMap_flatMap]
  exact (h.flatMap fun q c hc => ParameterPlan.channel_of_mem hc).append_left _

/-- Parameters in another order make the same request. -/
theorem build_of_sameByChannel (h : SameByChannel ParameterPlan.channel r.parameters qs)
    (hbuild : r.build converters baseUrl arguments = .ok request) :
    { r with parameters := qs }.build converters baseUrl arguments = .ok request := by
  have hcalls := contributions_of_build hbuild
  have hall : ∀ e ∈ { r with parameters := qs }.contributions converters arguments,
      ∃ c, e = .ok c := by
    intro e he
    have hmem := mem_contributions_of_sameByChannel h he
    rw [hcalls] at hmem
    obtain ⟨c, _, rfl⟩ := List.mem_map.mp hmem
    exact ⟨c, rfl⟩
  rw [build_eq_outcome hcalls, (contributions_sameByChannel h).outcome_eq] at hbuild
  rw [build_eq_outcome (map_ok_converted hall)]
  exact hbuild

/-- The plan of a method whose parameters stand in another order. -/
theorem exists_ofMethod_of_sameByChannel {plan : ConverterPlan} {m : MethodDescriptor}
    {ps : List ParameterDescriptor}
    (h : SameByChannel ParameterDescriptor.channel m.parameters ps)
    (hr : RequestPlan.ofMethod plan m = .ok r) :
    ∃ qs, RequestPlan.ofMethod plan { m with parameters := ps } =
        .ok { r with parameters := qs } ∧
      SameByChannel ParameterPlan.channel r.parameters qs := by
  obtain ⟨before, hbefore, rfl⟩ := Outcome.map_eq_ok.mp hr
  have hplanned := Outcome.exists_mapM_eq_ok.mp ⟨before, hbefore⟩
  obtain ⟨qs, hqs⟩ := Outcome.exists_mapM_eq_ok.mpr fun p hp => hplanned p ((h.mem_iff p).mpr hp)
  refine ⟨qs, Outcome.map_eq_ok.mpr ⟨qs, hqs, rfl⟩, ?_⟩
  rw [Outcome.eq_flatMap_of_mapM hbefore, Outcome.eq_flatMap_of_mapM hqs]
  refine h.flatMap fun p q hq => ?_
  cases hp : ParameterPlan.ofDescriptor plan p with
  | error d => simp [hp, Except.toOption] at hq
  | ok found =>
    obtain rfl : q = found := by simpa [hp, Except.toOption] using hq
    exact ParameterPlan.channel_of_ofDescriptor hp

end RequestPlan

/-! ### Order within channels -/

/-- Contributions and parameters may be put into another order as long as the order within each
channel stays. Contributions that are not refused then make the same request, or the same complaint
about its address; and a method whose parameters stand in the other order makes the same
requests. -/
theorem request_independent_of_order :
    (∀ (b : RequestBuilder) (xs ys : List Contribution),
        SameByChannel Contribution.channel xs ys →
          (∀ c ∈ xs, c.channel = .path → ∃ b', b.add c = .ok b') →
            b.outcome ys = b.outcome xs ∧
              ((∃ request, b.outcome xs = .ok request) ∨
                ∃ url fault, b.outcome xs = .error (.invalidUrl url fault))) ∧
      ∀ (plan : ConverterPlan) (m : MethodDescriptor) (ps : List ParameterDescriptor)
        (r : RequestPlan), SameByChannel ParameterDescriptor.channel m.parameters ps →
          RequestPlan.ofMethod plan m = .ok r →
            ∃ r', RequestPlan.ofMethod plan { m with parameters := ps } = .ok r' ∧
              ∀ converters baseUrl arguments request,
                r'.build converters baseUrl arguments = .ok request ↔
                  r.build converters baseUrl arguments = .ok request := by
  refine ⟨?_, ?_⟩
  · intro b xs ys hsame hpaths
    have htaken : ∀ c ∈ xs, c.traverses = false := by
      intro c hc
      by_contra hn
      obtain ⟨b', hb'⟩ := hpaths c hc (Contribution.channel_of_traverses (by simpa using hn))
      exact hn (RequestBuilder.add_eq_ok.mp hb').1
    refine ⟨(hsame.outcome_eq b).symm, ?_⟩
    rw [RequestBuilder.outcome_eq_build htaken]
    exact (b.after xs).build_cases
  · intro plan m ps r hsame hr
    obtain ⟨qs, hqs, hplanned⟩ := RequestPlan.exists_ofMethod_of_sameByChannel hsame hr
    refine ⟨_, hqs, fun converters baseUrl arguments request => ⟨fun h => ?_, fun h => ?_⟩⟩
    · exact RequestPlan.build_of_sameByChannel (r := { r with parameters := qs }) hplanned.symm h
    · exact RequestPlan.build_of_sameByChannel hplanned h

/-- Contributions to five channels, two of them to the query and two of them to the body. -/
def mixedCalls : List Contribution :=
  [.query "q" "a" true, .path "id" "7" false, .body (.text "x"), .header "A" "1",
    .query "r" "b" true, .url "u/{id}", .body (.text "y")]

/-- The same contributions in another order. -/
def sortedCalls : List Contribution :=
  [.url "u/{id}", .path "id" "7" false, .query "q" "a" true, .query "r" "b" true,
    .header "A" "1", .body (.text "x"), .body (.text "y")]

theorem request_independent_of_order_mixed :
    SameByChannel Contribution.channel mixedCalls sortedCalls ∧
      (RequestBuilder.new .post "https://h" "" .none).outcome sortedCalls =
        (RequestBuilder.new .post "https://h" "" .none).outcome mixedCalls ∧
      SameByChannel ParameterDescriptor.channel announced.parameters
        announced.parameters.reverse ∧
      RequestPlan.ofMethod tagPlan announced = .ok announceRequest ∧
      ∃ r', RequestPlan.ofMethod tagPlan
          { announced with parameters := announced.parameters.reverse } = .ok r' ∧
        r'.build plainConverters "https://h" announceArguments = .ok announceSent := by
  have hsame : SameByChannel Contribution.channel mixedCalls sortedCalls := by
    intro channel
    cases channel <;> rfl
  have hpaths : ∀ c ∈ mixedCalls, c.channel = .path →
      ∃ b, (RequestBuilder.new .post "https://h" "" .none).add c = .ok b := by
    intro c hc _
    exact ⟨_, RequestBuilder.add_eq_ok.mpr ⟨by revert c; decide, rfl⟩⟩
  have hparameters : SameByChannel ParameterDescriptor.channel announced.parameters
      announced.parameters.reverse := by
    intro channel
    cases channel <;> rfl
  have hrequest : RequestPlan.ofMethod tagPlan announced = .ok announceRequest := by rfl
  obtain ⟨r', hr', hbuild⟩ := request_independent_of_order.2 _ _ _ _ hparameters hrequest
  exact ⟨hsame, (request_independent_of_order.1 _ _ _ hsame hpaths).1, hparameters, hrequest, r',
    hr', (hbuild _ _ _ _).mpr announceRequest_build⟩

end RestClient
