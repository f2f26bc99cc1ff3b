import RestClient.Proofs.Http.Addresses
import RestClient.Proofs.Text.FormPairs
import RestClient.Proofs.Url.Parts

/-!
# How addresses are composed

The address of a request is the base joined to what is under it, with the pairs of the query put
behind the query it has. The pairs change nothing in front of the query and nothing in the fragment,
wherever question marks stand in it; and of the slashes at the joint one is left, however many there
were.

## Main results

- `RequestBuilder.hasParts_withQuery` — what pairs do to the parts of an address
- `resolve_slashes` — the slashes at the joint
- `url_keeps_parts` — the parts of the address of a request
-/

namespace RestClient.Http

open Url (HasParts beforeQuery fragment)

/-! ### Pairs in an address -/

/-- A query with pairs behind what it has. -/
def extendedQuery (own : Option (List Char)) (pairs : List (List Char)) : List Char :=
  own.elim [] (· ++ ['&']) ++ ['&'].intercalate pairs

theorem not_mem_intercalate {c : Char} {pairs : List (List Char)} (hc : c ≠ '&')
    (h : ∀ pair ∈ pairs, c ∉ pair) : c ∉ ['&'].intercalate pairs := by
  induction pairs with
  | nil => simp
  | cons pair pairs ih =>
    have hpair := h pair List.mem_cons_self
    have hrest := ih fun p hp => h p (List.mem_cons_of_mem _ hp)
    cases pairs with
    | nil => simpa using hpair
    | cons next pairs =>
      rw [List.intercalate_cons_cons]
      simp [hpair, hc, hrest]

/-- Pairs extend the query of an address and leave its other parts. -/
theorem RequestBuilder.hasParts_withQuery {address front frag : List Char}
    {query : Option (List Char)} {pairs : List (List Char)} (h : HasParts address front query frag)
    (hne : pairs ≠ []) (hpairs : ∀ pair ∈ pairs, '#' ∉ pair) :
    HasParts (withQuery pairs address) front (some (extendedQuery query pairs)) frag where
  eq_append := by
    have hfrag : address.dropWhile (· != '#') = frag := h.fragment_eq
    have hbody : address.takeWhile (· != '#') = front ++ Url.queryText query := h.takeWhile_eq
    rw [withQuery, if_neg (by simpa using hne), hfrag, hbody]
    cases query with
    | none => simp [Url.queryText, extendedQuery, h.question_not_mem]
    | some own => simp [Url.queryText, extendedQuery]
  question_not_mem := h.question_not_mem
  hash_not_mem := h.hash_not_mem
  hash_not_mem_query := by
    rintro q hq hmem
    obtain rfl := Option.some.inj hq
    rcases List.mem_append.mp hmem with hown | hnew
    · cases query with
      | none => cases hown
      | some own =>
        have hown : '#' ∈ own := by simpa using hown
        exact h.hash_not_mem_query own rfl hown
    · exact not_mem_intercalate (by decide) hpairs hnew
  fragment_starts := h.fragment_starts

/-! ### Slashes at the joint -/

theorem isAbsolute_slash (address : List Char) : isAbsolute ('/' :: address) = false :=
  rfl

theorem isAbsolute_slashes {address : List Char} (h : isAbsolute address = false) (m : ℕ) :
    isAbsolute (List.replicate m '/' ++ address) = false := by
  cases m with
  | zero => exact h
  | succ m => exact isAbsolute_slash _

theorem dropWhile_slashes (m : ℕ) (address : List Char) :
    (List.replicate m '/' ++ address).dropWhile (· == '/') = address.dropWhile (· == '/') := by
  refine List.dropWhile_append_of_pos fun c hc => ?_
  rw [List.eq_of_mem_replicate hc]
  rfl

theorem rdropWhile_slashes (base : List Char) (k : ℕ) :
    (base ++ List.replicate k '/').rdropWhile (· == '/') = base.rdropWhile (· == '/') := by
  rw [List.rdropWhile, List.reverse_append, List.reverse_replicate, dropWhile_slashes]
  rfl

/-- A relative address stands behind its base after one slash. -/
theorem resolve_of_relative {base address : List Char} (hbase : base ≠ []) (haddress : address ≠ [])
    (hrelative : isAbsolute address = false) :
    resolve base address =
      base.rdropWhile (· == '/') ++ '/' :: address.dropWhile (· == '/') := by
  unfold resolve
  rw [if_neg (by simp [hrelative, hbase]), if_neg (by simpa using haddress)]
  rfl

/-- However many slashes there are at the joint, one is left. -/
theorem resolve_slashes {base address : List Char} (hbase : base ≠ []) (haddress : address ≠ [])
    (hrelative : isAbsolute address = false) (k m : ℕ) :
    resolve (base ++ List.replicate k '/') (List.replicate m '/' ++ address) =
      base.rdropWhile (· == '/') ++ '/' :: address.dropWhile (· == '/') := by
  rw [resolve_of_relative (by simp [hbase]) (by simp [haddress]) (isAbsolute_slashes hrelative m),
    rdropWhile_slashes, dropWhile_slashes]

/-- An address is slashes and what they stand in front of. -/
theorem exists_slashes_append (address : List Char) :
    ∃ m, address = List.replicate m '/' ++ address.dropWhile (· == '/') := by
  have hall : ∀ c ∈ address.takeWhile (· == '/'), c = '/' := by
    intro c hc
    simpa using List.mem_takeWhile_imp hc
  refine ⟨(address.takeWhile (· == '/')).length, ?_⟩
  rw [← List.eq_replicate_of_mem hall, List.takeWhile_append_dropWhile]

theorem exists_append_slashes (base : List Char) :
    ∃ k, base = base.rdropWhile (· == '/') ++ List.replicate k '/' := by
  obtain ⟨k, hk⟩ := exists_slashes_append base.reverse
  refine ⟨k, ?_⟩
  have hbase := congrArg List.reverse hk
  rwa [List.reverse_reverse, List.reverse_append, List.reverse_replicate] at hbase

theorem head?_dropWhile_slash (address : List Char) :
    (address.dropWhile (· == '/')).head? ≠ some '/' := by
  intro h
  have hhead := List.head?_dropWhile_not (· == '/') address
  rw [h] at hhead
  exact absurd hhead (by decide)

theorem getLast?_rdropWhile_slash (base : List Char) :
    (base.rdropWhile (· == '/')).getLast? ≠ some '/' := by
  rw [List.rdropWhile, List.getLast?_reverse]
  exact head?_dropWhile_slash base.reverse

/-! ### Requests -/

theorem hash_not_mem_encodePair (name value : String) : '#' ∉ encodePair name value false :=
  Text.not_mem_writtenPair (by decide) (by decide) (name, value)

theorem RequestBuilder.query_of_foldlM_add {verb : Verb} {base template : String}
    {encoding : Encoding} {calls : List Contribution} {b : RequestBuilder}
    (h : calls.foldlM RequestBuilder.add (.new verb base template encoding) = .ok b) :
    b.baseUrl = base ∧ b.query = calls.filterMap Contribution.query? := by
  obtain rfl := foldlM_add_eq_after h
  exact ⟨rfl, by simp [after, new]⟩

/-- The pairs of the query calls, in their order, go behind the query that the address has, and its
other parts stay. Pairs that are escaped never have a hash sign. And the address is joined with one
slash, however many slashes the base ends in and what is under it begins with. -/
theorem url_keeps_parts {verb : Verb} {base template : String} {encoding : Encoding}
    {calls : List Contribution} {b : RequestBuilder} {request : Request}
    (hpairs : ∀ pair ∈ calls.filterMap Contribution.query?, '#' ∉ pair)
    (hadd : calls.foldlM RequestBuilder.add (.new verb base template encoding) = .ok b)
    (hbuild : b.build = .ok request) :
    let address := resolve base.toList (Template.substitute b.template.toList b.paths)
    let pairs := calls.filterMap Contribution.query?
    beforeQuery request.url.toList = beforeQuery address ∧
      fragment request.url.toList = fragment address ∧
      (pairs ≠ [] → Url.query? request.url.toList =
        some (extendedQuery (Url.query? address) pairs)) ∧
      (pairs = [] → request.url.toList = address) ∧
      (∀ name value, '#' ∉ encodePair name value false) ∧
      ∀ base address, base ≠ [] → address ≠ [] → isAbsolute address = false →
        ∃ front back i j, base = front ++ List.replicate i '/' ∧
          address = List.replicate j '/' ++ back ∧
          front.getLast? ≠ some '/' ∧ back.head? ≠ some '/' ∧
          ∀ k m, resolve (base ++ List.replicate k '/') (List.replicate m '/' ++ address) =
            front ++ '/' :: back := by
  intro address pairs
  obtain ⟨hb, hquery⟩ := RequestBuilder.query_of_foldlM_add hadd
  obtain ⟨-, rfl⟩ := RequestBuilder.build_eq_ok.mp hbuild
  have hurl : (String.ofList b.url).toList = RequestBuilder.withQuery pairs address := by
    rw [String.toList_ofList, RequestBuilder.url, RequestBuilder.address, hb, hquery]
  have hnone : pairs = [] → RequestBuilder.withQuery pairs address = address := by
    intro h
    rw [RequestBuilder.withQuery, h]
    rfl
  have hsome : pairs ≠ [] → HasParts (RequestBuilder.withQuery pairs address)
      (beforeQuery address) (some (extendedQuery (Url.query? address) pairs))
      (fragment address) := by
    intro h
    exact RequestBuilder.hasParts_withQuery (Url.hasParts_self address) h hpairs
  dsimp only
  rw [hurl]
  refine ⟨?_, ?_, ?_, hnone, hash_not_mem_encodePair, ?_⟩
  · by_cases h : pairs = []
    · rw [hnone h]
    · exact (hsome h).beforeQuery_eq
  · by_cases h : pairs = []
    · rw [hnone h]
    · exact (hsome h).fragment_eq
  · intro h
    exact (hsome h).query?_eq
  · intro base address hbase haddress hrelative
    obtain ⟨i, hi⟩ := exists_append_slashes base
    obtain ⟨j, hj⟩ := exists_slashes_append address
    exact ⟨_, _, i, j, hi, hj, getLast?_rdropWhile_slash base, head?_dropWhile_slash address,
      resolve_slashes hbase haddress hrelative⟩

/-- A query goes between the query of the template and a fragment with a question mark, under a base
and a template with too many slashes. -/
theorem url_keeps_parts_of_marked_fragment :
    ∃ b request,
      [Contribution.query "x" "1#&" false, .query "y?" "2" true].foldlM RequestBuilder.add
          (.new .get "https://h/v//" "//a?v=2#f?g" .none) = .ok b ∧
        b.build = .ok request ∧ request.url = "https://h/v/a?v=2&x=1%23%26&y?=2#f?g" ∧
        beforeQuery request.url.toList = "https://h/v/a".toList ∧
        fragment request.url.toList = "#f?g".toList ∧
        Url.query? request.url.toList = some "v=2&x=1%23%26&y?=2".toList := by
  have hpairs : ∀ pair ∈ [Contribution.query "x" "1#&" false, .query "y?" "2" true].filterMap
      Contribution.query?, '#' ∉ pair := by
    decide
  have hadd : [Contribution.query "x" "1#&" false, .query "y?" "2" true].foldlM RequestBuilder.add
      (.new .get "https://h/v//" "//a?v=2#f?g" .none) =
        .ok { RequestBuilder.new .get "https://h/v//" "//a?v=2#f?g" .none with
          query := ["x=1%23%26".toList, "y?=2".toList] } := by
    rfl
  have hbuild : RequestBuilder.build
      { RequestBuilder.new .get "https://h/v//" "//a?v=2#f?g" .none with
        query := ["x=1%23%26".toList, "y?=2".toList] } =
        .ok ⟨.get, "https://h/v/a?v=2&x=1%23%26&y?=2#f?g", [], .empty⟩ := by
    decide +kernel
  obtain ⟨hfront, hfragment, hquery, -⟩ := url_keeps_parts hpairs hadd hbuild
  refine ⟨_, _, hadd, hbuild, rfl, hfront.trans ?_, hfragment.trans ?_, (hquery ?_).trans ?_⟩
  · decide +kernel
  · decide +kernel
  · decide
  · decide +kernel

end RestClient.Http
