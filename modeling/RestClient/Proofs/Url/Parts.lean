import Mathlib.Data.List.TakeWhile

/-!
# The parts of an address

An address is cut at its first question mark and its first hash sign: what stands in front of both,
the query between them, and the fragment from the hash sign on. A question mark behind the hash sign
belongs to the fragment.

## Main definitions

- `beforeQuery`, `query?`, `fragment` — the parts of an address
- `HasParts` — an address that is put together from parts

## Main results

- `hasParts_iff` — an address is put together in one way
-/

namespace RestClient.Url

/-- What stands in front of the query and of the fragment. -/
def beforeQuery (text : List Char) : List Char :=
  text.takeWhile fun c => c != '?' && c != '#'

/-- The query without its question mark, if a question mark stands in front of the fragment. -/
def query? (text : List Char) : Option (List Char) :=
  match (text.takeWhile (· != '#')).dropWhile (· != '?') with
  | [] => none
  | _ :: query => some query

/-- The fragment with its hash sign. -/
def fragment (text : List Char) : List Char :=
  text.dropWhile (· != '#')

/-- A query as it stands in an address. -/
def queryText (query : Option (List Char)) : List Char :=
  query.elim [] ('?' :: ·)

/-- An address that is put together from parts: no part reaches over the mark that ends it. -/
structure HasParts (text front : List Char) (query : Option (List Char))
    (fragment : List Char) : Prop where
  eq_append : text = front ++ queryText query ++ fragment
  question_not_mem : '?' ∉ front
  hash_not_mem : '#' ∉ front
  hash_not_mem_query : ∀ q, query = some q → '#' ∉ q
  fragment_starts : fragment = [] ∨ ∃ rest, fragment = '#' :: rest

theorem queryText_cases (query : Option (List Char)) :
    queryText query = [] ∨ ∃ q, queryText query = '?' :: q := by
  cases query with
  | none => exact .inl rfl
  | some q => exact .inr ⟨q, rfl⟩

section

variable {p : Char → Bool} {front rest : List Char}

/-- A scan over a text ends where the text behind it starts. -/
theorem takeWhile_append_of_stop (hfront : ∀ c ∈ front, p c = true)
    (hrest : ∀ c cs, rest = c :: cs → p c = false) : (front ++ rest).takeWhile p = front := by
  rw [List.takeWhile_append_of_pos hfront]
  cases rest with
  | nil => simp
  | cons c cs => simp [hrest c cs rfl]

theorem dropWhile_append_of_stop (hfront : ∀ c ∈ front, p c = true)
    (hrest : ∀ c cs, rest = c :: cs → p c = false) : (front ++ rest).dropWhile p = rest := by
  rw [List.dropWhile_append_of_pos hfront]
  cases rest with
  | nil => rfl
  | cons c cs => simp [hrest c cs rfl]

/-- A scan that looks for a character stops at that character. -/
theorem eq_of_dropWhile_eq_cons {c d : Char} {text : List Char}
    (h : text.dropWhile (· != c) = d :: rest) : d = c := by
  have hhead := List.head?_dropWhile_not (· != c) text
  rw [h] at hhead
  simpa using hhead

end

variable {text front frag : List Char} {query : Option (List Char)}

namespace HasParts

theorem hash_not_mem_left (h : HasParts text front query frag) :
    ∀ c ∈ front ++ queryText query, (c != '#') = true := by
  intro c hc
  rw [bne_iff_ne]
  rintro rfl
  rcases List.mem_append.mp hc with hc | hc
  · exact h.hash_not_mem hc
  · cases query with
    | none => cases hc
    | some q =>
      rcases List.mem_cons.mp hc with hc | hc
      · exact absurd hc (by decide)
      · exact h.hash_not_mem_query q rfl hc

theorem fragment_stops (h : HasParts text front query frag) :
    ∀ c cs, frag = c :: cs → c = '#' := by
  rintro c cs rfl
  rcases h.fragment_starts with hnil | ⟨rest, hcons⟩
  · cases hnil
  · exact (List.cons.inj hcons).1

/-- The hash sign stops the scan over what stands in front of the fragment. -/
theorem takeWhile_eq (h : HasParts text front query frag) :
    text.takeWhile (· != '#') = front ++ queryText query := by
  rw [h.eq_append]
  exact takeWhile_append_of_stop h.hash_not_mem_left fun c cs hcs => by
    simp [h.fragment_stops c cs hcs]

theorem fragment_eq (h : HasParts text front query frag) : fragment text = frag := by
  rw [fragment, h.eq_append]
  exact dropWhile_append_of_stop h.hash_not_mem_left fun c cs hcs => by
    simp [h.fragment_stops c cs hcs]

/-- Both the query and the fragment stop the scan over what stands in front of them. -/
theorem beforeQuery_eq (h : HasParts text front query frag) : beforeQuery text = front := by
  rw [beforeQuery, h.eq_append, List.append_assoc]
  apply takeWhile_append_of_stop
  · intro c hc
    have hquestion : c ≠ '?' := fun he => h.question_not_mem (he ▸ hc)
    have hhash : c ≠ '#' := fun he => h.hash_not_mem (he ▸ hc)
    simp [hquestion, hhash]
  · intro c cs hcs
    rcases queryText_cases query with hnil | ⟨q, hcons⟩
    · rw [hnil, List.nil_append] at hcs
      simp [h.fragment_stops c cs hcs]
    · rw [hcons, List.cons_append] at hcs
      simp [← (List.cons.inj hcs).1]

theorem query?_eq (h : HasParts text front query frag) : query? text = query := by
  have hquery : (front ++ queryText query).dropWhile (· != '?') = queryText query := by
    apply dropWhile_append_of_stop
    · intro c hc
      exact bne_iff_ne.mpr fun he => h.question_not_mem (he ▸ hc)
    · intro c cs hcs
      rcases queryText_cases query with hnil | ⟨q, hcons⟩
      · rw [hnil] at hcs
        cases hcs
      · rw [hcons] at hcs
        simp [← (List.cons.inj hcs).1]
  rw [query?, h.takeWhile_eq, hquery]
  cases query <;> rfl

end HasParts

/-! ### The cut of an address -/

/-- The text in front of the fragment is the part in front of the query, and the query. -/
theorem beforeQuery_append_queryText (text : List Char) :
    beforeQuery text ++ queryText (query? text) = text.takeWhile (· != '#') := by
  have hfront : beforeQuery text = (text.takeWhile (· != '#')).takeWhile (· != '?') := by
    rw [List.takeWhile_takeWhile, beforeQuery]
    congr
    funext c
    rw [Bool.decide_and, Bool.decide_eq_true, Bool.decide_eq_true, Bool.and_comm]
  have hquery : queryText (query? text) = (text.takeWhile (· != '#')).dropWhile (· != '?') := by
    rw [query?]
    split
    · next hnil => exact hnil.symm
    · next c q hcons =>
      rw [hcons, eq_of_dropWhile_eq_cons hcons]
      rfl
  rw [hfront, hquery, List.takeWhile_append_dropWhile]

theorem hasParts_self (text : List Char) :
    HasParts text (beforeQuery text) (query? text) (fragment text) where
  eq_append := by
    rw [beforeQuery_append_queryText]
    exact List.takeWhile_append_dropWhile.symm
  question_not_mem := by
    intro h
    simpa using List.mem_takeWhile_imp h
  hash_not_mem := by
    intro h
    simpa using List.mem_takeWhile_imp h
  hash_not_mem_query := by
    intro q hq h
    have hmem : '#' ∈ text.takeWhile (· != '#') := by
      rw [← beforeQuery_append_queryText, hq]
      simp [queryText, h]
    simpa using List.mem_takeWhile_imp hmem
  fragment_starts := by
    cases hcut : fragment text with
    | nil => exact .inl rfl
    | cons c rest => exact .inr ⟨rest, by rw [eq_of_dropWhile_eq_cons hcut]⟩

/-- An address is put together from its parts, and from no others. -/
theorem hasParts_iff : HasParts text front query frag ↔
    beforeQuery text = front ∧ query? text = query ∧ fragment text = frag := by
  constructor
  · intro h
    exact ⟨h.beforeQuery_eq, h.query?_eq, h.fragment_eq⟩
  · rintro ⟨rfl, rfl, rfl⟩
    exact hasParts_self text

end RestClient.Url
