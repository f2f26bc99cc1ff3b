import RestClient.Client.Expansion
import RestClient.Proofs.Client.FreshNames
import RestClient.Proofs.Interface.Methods

/-!
# Local names beside the parameters

The local names of a method are different from each other and from its parameters as these are
written. A parameter with the mark of a raw identifier is the same identifier as the name behind the
mark, and that name does not count as taken: a local with it hides the parameter.

## Main definitions

- `Locals.preferred` — the names of locals that nothing is in the way of
- `Locals.Hygienic` — no local hides a parameter or another local
-/

namespace RestClient

open Code (Method plainName)

/-! ### Raw names -/

theorem plainName_raw (name : String) : plainName ("r#" ++ name) = name := by
  have hlist : ("r#" ++ name).toList = 'r' :: '#' :: name.toList := by simp
  rw [plainName, hlist]
  exact String.ofList_toList

/-- A name is the plain form of another one if it is the other one, or is what the mark stands
before. -/
theorem eq_or_eq_raw_of_plainName {name plain : String} (h : plainName name = plain) :
    name = plain ∨ name = "r#" ++ plain := by
  unfold plainName at h
  split at h
  · next rest hlist =>
    refine .inr (String.toList_injective ?_)
    rw [hlist, ← h]
    simp
  · exact .inl h

/-- The second character of a name, which is the hash of the mark in a raw one. -/
def secondChar? (name : String) : Option Char :=
  name.toList[1]?

theorem plainName_eq_self {name : String} (h : secondChar? name ≠ some '#') :
    plainName name = name := by
  unfold plainName
  split
  · next rest hlist =>
    refine absurd ?_ h
    rw [secondChar?, hlist]
    rfl
  · rfl

namespace Locals

/-- The names that locals have where nothing is in their way, in the order of allocation. -/
def preferred : List String :=
  ["builder", "request", "response", "body", "http_client", "converter", "outcome", "info", "error",
    "value", "key", "stream"]

theorem toList_allocate (letters : Letters) (parameters : List String) :
    (allocate letters parameters).1.toList =
      (NameSupply.allocateAll preferred ⟨letters, parameters ++ ["self"]⟩).1 := by
  simp only [allocate, toList, preferred, NameSupply.allocateAll]

theorem preferred_shape {p : String} (h : p ∈ preferred) :
    secondChar? p ≠ some '#' ∧ 2 ≤ p.toList.length := by
  revert p
  decide

theorem preferred_not_decorated {p q : String} (hp : p ∈ preferred) (hq : q ∈ preferred)
    (w : List Char) : decorated p w ≠ q := by
  have hprefix : ∀ p ∈ preferred, ∀ q ∈ preferred, ¬ p.toList ++ ['_'] <+: q.toList := by
    decide
  rintro rfl
  refine hprefix p hp _ hq ?_
  rw [toList_decorated]
  exact ⟨w, by simp⟩

/-- No local is written with the mark of a raw identifier. -/
theorem plainName_of_comesFrom {p name : String} (hp : p ∈ preferred)
    (h : NameSupply.ComesFrom p name) : plainName name = name := by
  obtain ⟨hsecond, hlength⟩ := preferred_shape hp
  refine plainName_eq_self ?_
  rcases h with rfl | ⟨w, rfl⟩
  · exact hsecond
  · rw [secondChar?, toList_decorated, List.getElem?_append_left (by omega)]
    exact hsecond

variable (letters : Letters) (parameters : List String)

theorem allocate_allocated :
    NameSupply.Allocated preferred ⟨letters, parameters ++ ["self"]⟩
      (allocate letters parameters).1.toList := by
  rw [toList_allocate]
  exact NameSupply.allocateAll_allocated _ _

theorem plainName_of_mem_allocate {x : String}
    (hx : x ∈ (allocate letters parameters).1.toList) : plainName x = x := by
  obtain ⟨p, hp, hfrom⟩ :=
    Outcome.exists_of_forall₂ (allocate_allocated letters parameters).comesFrom hx
  exact plainName_of_comesFrom hp hfrom

theorem not_parameter_of_mem_allocate {x : String}
    (hx : x ∈ (allocate letters parameters).1.toList) : x ∉ parameters :=
  fun h => (allocate_allocated letters parameters).free x hx (List.mem_append_left _ h)

/-- A preferred name that no parameter is written as is the name of a local. -/
theorem preferred_mem_allocate {x : String} (hx : x ∈ preferred) (hn : x ∉ parameters) :
    x ∈ (allocate letters parameters).1.toList := by
  refine (allocate_allocated letters parameters).kept x hx ?_ ?_
  · intro ht
    rcases List.mem_append.mp ht with ht | ht
    · exact hn ht
    · obtain rfl : x = "self" := by simpa using ht
      exact absurd hx (by decide)
  · exact fun p hp _ w => preferred_not_decorated hp hx w

theorem allocate_distinct : ((allocate letters parameters).1.toList.map plainName).Nodup := by
  have hplain : (allocate letters parameters).1.toList.map plainName =
      (allocate letters parameters).1.toList :=
    (List.map_congr_left fun _ => plainName_of_mem_allocate letters parameters).trans
      (List.map_id _)
  rw [hplain]
  exact (allocate_allocated letters parameters).nodup

/-- No local is the same identifier as another local or as a parameter. -/
structure Hygienic (l : Locals) (parameters : List String) : Prop where
  distinct : (l.toList.map plainName).Nodup
  apart : ∀ x ∈ l.toList, ∀ p ∈ parameters, plainName x ≠ plainName p

theorem allocate_hygienic_iff :
    (allocate letters parameters).1.Hygienic parameters ↔
      ∀ x ∈ (allocate letters parameters).1.toList, "r#" ++ x ∉ parameters := by
  constructor
  · intro h x hx hraw
    refine h.apart x hx _ hraw ?_
    rw [plainName_raw, plainName_of_mem_allocate letters parameters hx]
  · intro h
    refine ⟨allocate_distinct letters parameters, ?_⟩
    intro x hx p hp he
    rw [plainName_of_mem_allocate letters parameters hx] at he
    rcases eq_or_eq_raw_of_plainName he.symm with rfl | rfl
    · exact not_parameter_of_mem_allocate letters parameters hx hp
    · exact h x hx hp

end Locals

/-- The locals of a method are different identifiers, and none is written like a parameter. They are
hygienic unless a parameter is a local with the mark of a raw identifier; a preferred name behind
such a mark is that of a local, if no parameter is written as the name itself. -/
theorem locals_hygienic_iff (letters : Letters) (m : MethodDescriptor) :
    ((Locals.allocate letters m.parameterNames).1.toList.map plainName).Nodup ∧
      (∀ x ∈ (Locals.allocate letters m.parameterNames).1.toList, x ∉ m.parameterNames) ∧
      ((Locals.allocate letters m.parameterNames).1.Hygienic m.parameterNames ↔
        ∀ x ∈ (Locals.allocate letters m.parameterNames).1.toList,
          "r#" ++ x ∉ m.parameterNames) ∧
      ∀ x ∈ Locals.preferred, x ∉ m.parameterNames → "r#" ++ x ∈ m.parameterNames →
        ¬ (Locals.allocate letters m.parameterNames).1.Hygienic m.parameterNames := by
  refine ⟨Locals.allocate_distinct letters _,
    fun _ => Locals.not_parameter_of_mem_allocate letters _,
    Locals.allocate_hygienic_iff letters _, ?_⟩
  intro x hx hn hraw hygienic
  exact (Locals.allocate_hygienic_iff letters _).mp hygienic x
    (Locals.preferred_mem_allocate letters _ hx hn) hraw

/-! ### A parameter behind the mark of a raw identifier -/

/-- A method with a query parameter of some name. -/
def findBy (parameter : String) : Method where
  attributes := [⟨⟨⟨false, none, [⟨"get", none, false⟩]⟩,
    .list .parenthesis [.literal "\"a\"" .nowhere] .nowhere, []⟩, []⟩]
  signature :=
    { lead := [], asyncSpan := some .nowhere, name := "find", nameSpan := .nowhere, generics := []
      inputs := [(.receiver ⟨[], true, false, false, []⟩, []),
        (.typed (flaggedInput (some "query") parameter (.reference [] (plainType "str"))), [])]
      variadic := [], parentheses := .nowhere, arrow := []
      output := some (appliedType "Result" (plainType "String")), whereClause := [] }
  body := none
  ending := []

/-- What is found out about the method. -/
def foundBy (parameter : String) : MethodDescriptor where
  signature := cleanSignature (findBy parameter).signature
  attributes := []
  verb := .get
  url := .template "a" .nowhere
  encoding := .none
  headers := []
  parameters := [⟨parameter, .reference [] (plainType "str"), .query parameter false, .single,
    plainType "str", .nowhere⟩]
  returns := .value (plainType "String")
  callback := none

/-- What the method does with the names that it gets for itself. -/
def foundPlan (parameter : String) : MethodPlan where
  signature := cleanSignature (findBy parameter).signature
  logName := "Api.find"
  request := ⟨.get, "a", .none, [],
    [⟨parameter, .query parameter false, .single, plainType "str", .text⟩]⟩
  returns := .value (plainType "String")
  response := .text
  callback := ""
  locals := (Locals.allocate .initial [parameter]).1

/-- A parameter called `r#builder` is hidden by the local `builder`: the request is built in the
local, and the parameter is read behind it under the name of the local. -/
theorem raw_parameter_is_hidden :
    analyzeMethod (findBy "r#builder") = .ok (foundBy "r#builder") ∧
      MethodPlan.ofMethod ⟨[], ⟨.initial, []⟩⟩ "Api"
          (Locals.allocate .initial (foundBy "r#builder").parameterNames).1
          (foundBy "r#builder") = .ok (foundPlan "r#builder") ∧
      ["let", "mut", "builder", "="] <:+: (foundPlan "r#builder").code ∧
      ["builder", ".", "query"] ++ Emission.parens ([","].intercalate
          [[Code.stringLiteral "r#builder"], textCode ["&", "r#builder"], ["false"]]) <:+:
        (foundPlan "r#builder").code ∧
      ¬ (Locals.allocate .initial (foundBy "r#builder").parameterNames).1.Hygienic
          (foundBy "r#builder").parameterNames := by
  refine ⟨by rfl, by rfl, ?_, ?_, ?_⟩
  · decide +kernel
  · decide +kernel
  · intro h
    refine h.apart "builder" ?_ "r#builder" ?_ ?_
    · decide +kernel
    · decide
    · decide

end RestClient
