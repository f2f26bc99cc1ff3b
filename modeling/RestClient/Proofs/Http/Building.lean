import RestClient.Http.RequestBuilder
import RestClient.Proofs.Outcome

/-!
# What a builder collects

A builder keeps the contributions of each channel apart, in the order in which they came; the last
address and the last body stand for themselves. A request is made of nothing else.

## Main definitions

- `Channel`, `Contribution.channel` — where a contribution goes
- `Contribution.refusal?` — the failure of a contribution that is refused
- `RequestBuilder.after` — a builder after contributions
-/

namespace RestClient.Http

/-- Where a contribution goes. -/
inductive Channel where
  | url
  | path
  | query
  | header
  | field
  | part
  | body
  deriving DecidableEq

namespace Contribution

/-- The channel of a contribution. -/
def channel : Contribution → Channel
  | url .. => .url
  | path .. => .path
  | query .. => .query
  | header .. => .header
  | field .. => .field
  | part .. => .part
  | body .. => .body

/-- The address that is contributed. -/
def url? : Contribution → Option String
  | url value => some value
  | _ => none

/-- The value that is recorded for a path. -/
def path? : Contribution → Option (List Char × List Char)
  | path name value encoded => some (name.toList, encodePathValue value encoded)
  | _ => none

/-- The pair of a query. -/
def query? : Contribution → Option (List Char)
  | query name value encoded => some (encodePair name value encoded)
  | _ => none

/-- The header that is contributed. -/
def header? : Contribution → Option (String × String)
  | header name value => some (name, value)
  | _ => none

/-- The pair of a form. -/
def field? : Contribution → Option (List Char)
  | field name value encoded => some (encodePair name value encoded)
  | _ => none

/-- The part of a form. -/
def part? : Contribution → Option Part
  | part name content => some ⟨name, content⟩
  | _ => none

/-- The body that is contributed. -/
def body? : Contribution → Option RequestBody
  | body b => some b
  | _ => none

/-- A value of a path that would leave its place. -/
def traverses : Contribution → Bool
  | path _ value encoded => !encoded && isTraversal value
  | _ => false

/-- The failure of a contribution that is refused. -/
def refusal? : Contribution → Option Failure
  | path name value encoded =>
    if !encoded && isTraversal value then some (traversal name value) else none
  | _ => none

theorem refusal?_eq_none_iff {c : Contribution} : c.refusal? = none ↔ c.traverses = false := by
  cases c <;> simp [refusal?, traverses]

end Contribution

namespace RequestBuilder

/-- A builder after contributions. -/
def after (b : RequestBuilder) (calls : List Contribution) : RequestBuilder where
  verb := b.verb
  baseUrl := b.baseUrl
  template := (calls.filterMap Contribution.url?).getLast?.getD b.template
  encoding := b.encoding
  paths := b.paths ++ calls.filterMap Contribution.path?
  query := b.query ++ calls.filterMap Contribution.query?
  headers := b.headers ++ calls.filterMap Contribution.header?
  fields := b.fields ++ calls.filterMap Contribution.field?
  parts := b.parts ++ calls.filterMap Contribution.part?
  body := (calls.filterMap Contribution.body?).getLast? <|> b.body

theorem after_nil (b : RequestBuilder) : b.after [] = b := by
  simp [after]

theorem after_append (b : RequestBuilder) (xs ys : List Contribution) :
    b.after (xs ++ ys) = (b.after xs).after ys := by
  unfold after
  simp only [List.filterMap_append, List.getLast?_append, List.append_assoc, Option.getD_or,
    Option.orElse_eq_orElse, Option.orElse_eq_or, Option.or_assoc]

/-- A builder fails with a contribution that is refused, and puts any other one at the end of its
channel. -/
theorem add_eq (b : RequestBuilder) (c : Contribution) :
    b.add c = match c.refusal? with
      | some e => .error e
      | none => .ok (b.after [c]) := by
  cases c with
  | path name value encoded =>
    rw [add, Contribution.refusal?]
    split
    · rfl
    · simp [after, List.filterMap_cons, Contribution.url?, Contribution.path?,
        Contribution.query?, Contribution.header?, Contribution.field?, Contribution.part?,
        Contribution.body?]
  | _ =>
    simp [add, Contribution.refusal?, after, List.filterMap_cons, Contribution.url?,
      Contribution.path?, Contribution.query?, Contribution.header?, Contribution.field?,
      Contribution.part?, Contribution.body?]

/-- One contribution is refused, or stands at the end of its channel. -/
theorem add_eq_ok {b b' : RequestBuilder} {c : Contribution} :
    b.add c = .ok b' ↔ c.traverses = false ∧ b' = b.after [c] := by
  rw [add_eq, ← Contribution.refusal?_eq_none_iff]
  cases c.refusal? <;> simp [eq_comm]

/-- A run of contributions fails with the first one that is refused, or all of them are taken. -/
theorem foldlM_add_eq (b : RequestBuilder) (calls : List Contribution) :
    calls.foldlM add b = match (calls.filterMap Contribution.refusal?).head? with
      | some e => .error e
      | none => .ok (b.after calls) := by
  induction calls generalizing b with
  | nil => exact congrArg Except.ok (after_nil b).symm
  | cons c calls ih =>
    rw [List.foldlM_cons, add_eq, List.filterMap_cons]
    cases hc : c.refusal? with
    | some e => rfl
    | none =>
      -- the builder after the first contribution takes the others
      have happend := after_append b [c] calls
      simp only [List.singleton_append] at happend
      rw [happend]
      exact ih (b.after [c])

/-- Contributions that are not refused are all taken. -/
theorem foldlM_add_of_not_traverses {b : RequestBuilder} {calls : List Contribution}
    (h : ∀ c ∈ calls, c.traverses = false) : calls.foldlM add b = .ok (b.after calls) := by
  have hnone : calls.filterMap Contribution.refusal? = [] :=
    List.filterMap_eq_nil_iff.mpr fun c hc => Contribution.refusal?_eq_none_iff.mpr (h c hc)
  rw [foldlM_add_eq, hnone]
  rfl

theorem foldlM_add_eq_after {b b' : RequestBuilder} {calls : List Contribution}
    (h : calls.foldlM add b = .ok b') : b' = b.after calls := by
  rw [foldlM_add_eq] at h
  split at h
  · cases h
  · exact (Except.ok.inj h).symm

/-- What is contributed along the way, where every contribution is there and none is refused. -/
theorem foldlM_add_eq_ok {b b' : RequestBuilder}
    {contributions : List (Except Failure Contribution)}
    (h : contributions.foldlM (fun b contribution => do b.add (← contribution)) b = .ok b') :
    ∃ calls, contributions = calls.map .ok ∧ b' = b.after calls := by
  -- the contributions are results here, and each of them has to be one that ended well
  refine Outcome.foldlM_related
    (R := fun contributions b b' => ∃ calls, contributions = calls.map .ok ∧ b' = b.after calls)
    (fun b => ⟨[], rfl, (after_nil b).symm⟩) ?_ h
  intro contribution rest b b₁ b' hstep hrest
  obtain ⟨c, rfl, hadd⟩ := Outcome.bind_eq_ok.mp hstep
  obtain ⟨_, rfl⟩ := add_eq_ok.mp hadd
  obtain ⟨calls, rfl, rfl⟩ := hrest
  exact ⟨c :: calls, rfl, (after_append b [c] calls).symm⟩

theorem build_eq_ok {b : RequestBuilder} {request : Request} :
    b.build = .ok request ↔
      Url.fault? b.url = none ∧ request = ⟨b.verb, String.ofList b.url, b.headers, b.payload⟩ := by
  unfold build
  cases Url.fault? b.url with
  | some fault => simp
  | none => simp [eq_comm]

/-- The pairs of the query stand in the address, in order and next to each other. -/
theorem infix_withQuery {pairs : List (List Char)} (address : List Char) (h : pairs ≠ []) :
    ['&'].intercalate pairs <:+: withQuery pairs address := by
  unfold withQuery
  rw [if_neg (by simpa using h)]
  refine ⟨address.takeWhile (· != '#') ++
    [if (address.takeWhile (· != '#')).contains '?' then '&' else '?'],
    address.dropWhile (· != '#'), ?_⟩
  simp

end RequestBuilder

end RestClient.Http
