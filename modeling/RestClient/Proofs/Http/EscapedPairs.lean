import RestClient.Proofs.Http.Composition

/-!
# Pairs of queries and forms

Names and values that are escaped come back from the address and from the form as they were given,
pair by pair and in order, whatever characters are in them.

## Main definitions

- `Contribution.queryPair?`, `Contribution.fieldPair?` — pairs as they are contributed
- `Contribution.IsEscaped` — contributions whose pairs are escaped

## Main results

- `escaped_pairs_read_back` — the pairs of a request
-/

namespace RestClient.Http

open Text (readPairs? writtenPair)

namespace Contribution

/-- The pair of a query as it is contributed. -/
def queryPair? : Contribution → Option (String × String)
  | query name value _ => some (name, value)
  | _ => none

/-- The pair of a form as it is contributed. -/
def fieldPair? : Contribution → Option (String × String)
  | field name value _ => some (name, value)
  | _ => none

/-- A contribution whose pair, if it is one, is escaped. -/
def IsEscaped : Contribution → Prop
  | query _ _ encoded => encoded = false
  | field _ _ encoded => encoded = false
  | _ => True

theorem query?_of_isEscaped {c : Contribution} (h : c.channel = .query → c.IsEscaped) :
    c.query? = c.queryPair?.map writtenPair := by
  cases c with
  | query name value encoded =>
    obtain rfl : encoded = false := h rfl
    rfl
  | _ => rfl

theorem field?_of_isEscaped {c : Contribution} (h : c.channel = .field → c.IsEscaped) :
    c.field? = c.fieldPair?.map writtenPair := by
  cases c with
  | field name value encoded =>
    obtain rfl : encoded = false := h rfl
    rfl
  | _ => rfl

end Contribution

section

variable {calls : List Contribution}

theorem queries_of_isEscaped (h : ∀ c ∈ calls, c.channel = .query → c.IsEscaped) :
    calls.filterMap Contribution.query? =
      (calls.filterMap Contribution.queryPair?).map writtenPair := by
  rw [List.map_filterMap]
  exact List.filterMap_congr fun c hc => Contribution.query?_of_isEscaped (h c hc)

theorem fields_of_isEscaped (h : ∀ c ∈ calls, c.channel = .field → c.IsEscaped) :
    calls.filterMap Contribution.field? =
      (calls.filterMap Contribution.fieldPair?).map writtenPair := by
  rw [List.map_filterMap]
  exact List.filterMap_congr fun c hc => Contribution.field?_of_isEscaped (h c hc)

end

/-- An address without a query gets the pairs as its query. -/
theorem RequestBuilder.query?_withQuery {address : List Char} (haddress : Url.query? address = none)
    (pairs : List (String × String)) :
    (Url.query? (withQuery (pairs.map writtenPair) address)).getD [] =
      ['&'].intercalate (pairs.map writtenPair) := by
  by_cases hne : pairs = []
  · subst hne
    rw [List.map_nil, withQuery, List.isEmpty_nil, if_pos rfl, haddress]
    rfl
  · have hhash : ∀ pair ∈ pairs.map writtenPair, '#' ∉ pair := by
      intro pair hpair
      obtain ⟨p, -, rfl⟩ := List.mem_map.mp hpair
      exact Text.not_mem_writtenPair (by decide) (by decide) p
    have hparts := hasParts_withQuery (Url.hasParts_self address) (by simpa using hne) hhash
    rw [hparts.query?_eq, haddress]
    rfl

/-- Pairs are taken, and no pair is in the way of a request: where the address is valid there is
one. The pairs of a form come back from the octets of its body, and those of a query from its
address, if what they are added to has no query of its own: all of them, in order, and no others. -/
theorem escaped_pairs_read_back {verb : Verb} {base template : String} {encoding : Encoding}
    {calls : List Contribution} (hcalls : ∀ c ∈ calls, c.traverses = false) :
    ∃ b, calls.foldlM RequestBuilder.add (.new verb base template encoding) = .ok b ∧
      (Url.fault? b.url = none → ∃ request, b.build = .ok request ∧
        (encoding = .formUrlEncoded → (∀ c ∈ calls, c.channel = .field → c.IsEscaped) →
          ∃ body, request.payload = .body body ∧
            body.contentType = some "application/x-www-form-urlencoded" ∧
            readPairs? body.octets = some (calls.filterMap Contribution.fieldPair?)) ∧
        ((∀ c ∈ calls, c.channel = .query → c.IsEscaped) → Url.query? b.address = none →
          readPairs? (Text.utf8 ((Url.query? request.url.toList).getD [])) =
            some (calls.filterMap Contribution.queryPair?))) := by
  refine ⟨_, RequestBuilder.foldlM_add_of_not_traverses hcalls, fun hvalid => ?_⟩
  refine ⟨_, RequestBuilder.build_eq_ok.mpr ⟨hvalid, rfl⟩, ?_, ?_⟩
  · rintro rfl hescaped
    refine ⟨_, rfl, rfl, ?_⟩
    have hfields := fields_of_isEscaped hescaped
    simp only [RequestBody.form, RequestBuilder.after, RequestBuilder.new, List.nil_append,
      Text.octetsOf, String.toList_ofList]
    rw [hfields]
    exact Text.readPairs?_written _
  · intro hescaped haddress
    have hquery := RequestBuilder.query?_withQuery haddress
      (calls.filterMap Contribution.queryPair?)
    rw [← queries_of_isEscaped hescaped] at hquery
    rw [String.toList_ofList]
    refine (congrArg (readPairs? ∘ Text.utf8) hquery).trans ?_
    rw [queries_of_isEscaped hescaped]
    exact Text.readPairs?_written _

/-- Names and values that are made of marks come back, empty ones too. -/
theorem escaped_pairs_read_back_of_marks :
    ∃ b request body,
      [Contribution.field "&=" "+ %\x7b" false, .query "" "?#" false, .field "" "" false,
          .query "é" "a=b&c" false].foldlM RequestBuilder.add
          (.new .post "https://h" "/a#f?g" .formUrlEncoded) = .ok b ∧
        b.build = .ok request ∧
        request.url = "https://h/a?=%3F%23&%C3%A9=a%3Db%26c#f?g" ∧
        request.payload = .body body ∧
        readPairs? body.octets = some [("&=", "+ %\x7b"), ("", "")] ∧
        readPairs? (Text.utf8 ((Url.query? request.url.toList).getD [])) =
          some [("", "?#"), ("é", "a=b&c")] := by
  have hadd : [Contribution.field "&=" "+ %\x7b" false, .query "" "?#" false, .field "" "" false,
      .query "é" "a=b&c" false].foldlM RequestBuilder.add
        (.new .post "https://h" "/a#f?g" .formUrlEncoded) =
      .ok { RequestBuilder.new .post "https://h" "/a#f?g" .formUrlEncoded with
        query := ["=%3F%23".toList, "%C3%A9=a%3Db%26c".toList]
        fields := ["%26%3D=%2B+%25%7B".toList, "=".toList] } := by
    rfl
  have hbuild : RequestBuilder.build
      { RequestBuilder.new .post "https://h" "/a#f?g" .formUrlEncoded with
        query := ["=%3F%23".toList, "%C3%A9=a%3Db%26c".toList]
        fields := ["%26%3D=%2B+%25%7B".toList, "=".toList] } =
      .ok ⟨.post, "https://h/a?=%3F%23&%C3%A9=a%3Db%26c#f?g", [],
        .body (.form "%26%3D=%2B+%25%7B&=")⟩ := by
    decide +kernel
  have hcalls : ∀ c ∈ [Contribution.field "&=" "+ %\x7b" false, .query "" "?#" false,
      .field "" "" false, .query "é" "a=b&c" false], c.traverses = false := by
    decide
  obtain ⟨b, hb, hread⟩ := escaped_pairs_read_back hcalls
  obtain rfl := Except.ok.inj (hb.symm.trans hadd)
  obtain ⟨request, hrequest, hform, hquery⟩ := hread (RequestBuilder.build_eq_ok.mp hbuild).1
  obtain rfl := Except.ok.inj (hrequest.symm.trans hbuild)
  obtain ⟨body, hbody, -, hfields⟩ :=
    hform rfl (by simp [Contribution.channel, Contribution.IsEscaped])
  refine ⟨_, _, body, hadd, hbuild, rfl, hbody, hfields, hquery ?_ ?_⟩
  · simp [Contribution.channel, Contribution.IsEscaped]
  · decide +kernel

end RestClient.Http
