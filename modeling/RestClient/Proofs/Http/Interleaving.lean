import RestClient.Proofs.Http.Building

/-!
# Contributions in another order

The channels of a builder do not know of each other: what goes to one of them never depends on what
goes to another one in between, also where a contribution is refused. So the order in which
contributions come matters only within each channel.

## Main definitions

- `SameByChannel` — lists that agree channel by channel
- `RequestBuilder.outcome` — what becomes of contributions

## Main results

- `SameByChannel.outcome_eq` — contributions that agree channel by channel make the same request, or
  fail alike
-/

namespace RestClient.Http

/-- For every channel the same members in the same order. -/
def SameByChannel {α : Type} (channelOf : α → Channel) (xs ys : List α) : Prop :=
  ∀ channel, (xs.filter fun a => channelOf a = channel) = ys.filter fun a => channelOf a = channel

section

variable {α β : Type} {channelOf : α → Channel} {xs ys : List α}

/-- What is made of the members for one channel only. -/
theorem filterMap_filter_channel {f : α → Option β} {channel : Channel}
    (hf : ∀ a, (f a).isSome → channelOf a = channel) (l : List α) :
    (l.filter fun a => channelOf a = channel).filterMap f = l.filterMap f := by
  rw [List.filterMap_filter]
  refine List.filterMap_congr fun a _ => ?_
  by_cases ha : channelOf a = channel
  · simp [ha]
  · have hnone : f a = none := by
      rw [← Option.not_isSome_iff_eq_none]
      exact fun hsome => ha (hf a hsome)
    simp [hnone]

/-- Where every member makes something for its own channel, each channel gets what its members
make. -/
theorem filter_flatMap_channel {f : α → List β} {channelOf' : β → Channel}
    (hf : ∀ a, ∀ b ∈ f a, channelOf' b = channelOf a) (channel : Channel) (l : List α) :
    ((l.flatMap f).filter fun b => channelOf' b = channel) =
      (l.filter fun a => channelOf a = channel).flatMap f := by
  induction l with
  | nil => rfl
  | cons a l ih =>
    rw [List.flatMap_cons, List.filter_append, ih]
    by_cases ha : channelOf a = channel
    · have hall : ((f a).filter fun b => channelOf' b = channel) = f a := by
        rw [List.filter_eq_self]
        intro b hb
        simp [hf a b hb, ha]
      rw [hall, List.filter_cons_of_pos (by simpa using ha), List.flatMap_cons]
    · have hnone : ((f a).filter fun b => channelOf' b = channel) = [] := by
        rw [List.filter_eq_nil_iff]
        intro b hb
        simp [hf a b hb, ha]
      rw [hnone, List.filter_cons_of_neg (by simpa using ha), List.nil_append]

namespace SameByChannel

theorem symm (h : SameByChannel channelOf xs ys) : SameByChannel channelOf ys xs :=
  fun channel => (h channel).symm

theorem mem_iff (h : SameByChannel channelOf xs ys) (a : α) : a ∈ xs ↔ a ∈ ys := by
  have hmem : ∀ l : List α, a ∈ l ↔ a ∈ l.filter fun b => channelOf b = channelOf a := by
    intro l
    simp
  rw [hmem xs, hmem ys, h]

theorem filterMap_eq (h : SameByChannel channelOf xs ys) {f : α → Option β} {channel : Channel}
    (hf : ∀ a, (f a).isSome → channelOf a = channel) : xs.filterMap f = ys.filterMap f := by
  rw [← filterMap_filter_channel hf xs, h channel, filterMap_filter_channel hf ys]

theorem flatMap (h : SameByChannel channelOf xs ys) {f : α → List β} {channelOf' : β → Channel}
    (hf : ∀ a, ∀ b ∈ f a, channelOf' b = channelOf a) :
    SameByChannel channelOf' (xs.flatMap f) (ys.flatMap f) := fun channel => by
  rw [filter_flatMap_channel hf, filter_flatMap_channel hf, h channel]

theorem append_left (h : SameByChannel channelOf xs ys) (front : List α) :
    SameByChannel channelOf (front ++ xs) (front ++ ys) := fun channel => by
  rw [List.filter_append, List.filter_append, h channel]

end SameByChannel

end

/-! ### Contributions -/

namespace Contribution

theorem channel_of_traverses {c : Contribution} (h : c.traverses = true) : c.channel = .path := by
  cases c with
  | path name value encoded => rfl
  | _ => cases h

/-- What a builder reads off a contribution, it reads off the contributions of one channel. -/
theorem channel_of_isSome (c : Contribution) :
    (c.url?.isSome → c.channel = .url) ∧ (c.path?.isSome → c.channel = .path) ∧
      (c.query?.isSome → c.channel = .query) ∧ (c.header?.isSome → c.channel = .header) ∧
      (c.field?.isSome → c.channel = .field) ∧ (c.part?.isSome → c.channel = .part) ∧
      (c.body?.isSome → c.channel = .body) := by
  cases c <;> simp [url?, path?, query?, header?, field?, part?, body?, channel]

theorem channel_of_refusal? (c : Contribution) (h : c.refusal?.isSome) : c.channel = .path := by
  cases c with
  | path name value encoded => rfl
  | _ => cases h

end Contribution

variable {xs ys : List Contribution}

/-- Everything that a builder keeps comes from one channel. -/
theorem SameByChannel.after_eq (h : SameByChannel Contribution.channel xs ys)
    (b : RequestBuilder) :
    b.after xs = b.after ys := by
  have hreads := Contribution.channel_of_isSome
  have hurl := h.filterMap_eq fun c => (hreads c).1
  have hpath := h.filterMap_eq fun c => (hreads c).2.1
  have hquery := h.filterMap_eq fun c => (hreads c).2.2.1
  have hheader := h.filterMap_eq fun c => (hreads c).2.2.2.1
  have hfield := h.filterMap_eq fun c => (hreads c).2.2.2.2.1
  have hpart := h.filterMap_eq fun c => (hreads c).2.2.2.2.2.1
  have hbody := h.filterMap_eq fun c => (hreads c).2.2.2.2.2.2
  unfold RequestBuilder.after
  rw [hurl, hpath, hquery, hheader, hfield, hpart, hbody]

namespace RequestBuilder

/-- What becomes of contributions: a request, or the failure of the first contribution that is
refused or of the request. -/
def outcome (b : RequestBuilder) (calls : List Contribution) : Except Failure Request := do
  (← calls.foldlM add b).build

/-- Where no contribution is refused, the outcome is that of the builder after all of them. -/
theorem outcome_eq_build {b : RequestBuilder} {calls : List Contribution}
    (h : ∀ c ∈ calls, c.traverses = false) : b.outcome calls = (b.after calls).build := by
  rw [outcome, foldlM_add_of_not_traverses h]
  rfl

/-- A builder makes a request, unless its address is no URL. -/
theorem build_cases (b : RequestBuilder) :
    (∃ request, b.build = .ok request) ∨
      ∃ url fault, b.build = .error (.invalidUrl url fault) := by
  unfold build
  cases Url.fault? b.url with
  | none => exact .inl ⟨_, rfl⟩
  | some fault => exact .inr ⟨_, fault, rfl⟩

end RequestBuilder

/-- The outcome depends on each channel alone. -/
theorem SameByChannel.outcome_eq (h : SameByChannel Contribution.channel xs ys)
    (b : RequestBuilder) : b.outcome xs = b.outcome ys := by
  have hrefusal := h.filterMap_eq Contribution.channel_of_refusal?
  rw [RequestBuilder.outcome, RequestBuilder.outcome, RequestBuilder.foldlM_add_eq,
    RequestBuilder.foldlM_add_eq, hrefusal, h.after_eq]

end RestClient.Http
