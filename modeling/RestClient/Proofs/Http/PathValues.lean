import RestClient.Proofs.Http.Building
import RestClient.Proofs.Template.Parts
import RestClient.Proofs.Template.Recording
import RestClient.Proofs.Text.Escaping

/-!
# Escaped values of paths

A value that is escaped stands for its octets and brings no delimiter of its own into an address.
It is refused when it is a dot segment by itself. A segment that has dots besides its values is not
looked at as a whole, so that empty values leave a dot segment there.

## Main definitions

- `pathDelimiters` — the characters with a meaning in an address or a template

## Main results

- `escaped_values_keep_structure` — what values leave of a template
- `dot_segment_of_values_iff` — where dot segments come from
- `dot_segment_of_empty_values` — a dot segment that values leave
-/

namespace RestClient.Http

open Template

/-! ### Values that are recorded -/

/-- The characters with a meaning in an address or a template. -/
def pathDelimiters : List Char :=
  ['/', '\\', '?', '#', '{', '}']

section

variable {calls : List PathCall} (hescaped : ∀ c ∈ calls, c.encoded = false)
include hescaped

theorem escaped_of_mem_entries {entry : List Char × List Char}
    (h : entry ∈ calls.map PathCall.entry) :
    ∃ call ∈ calls, entry.2 = Text.escapePath call.value.toList := by
  obtain ⟨call, hcall, rfl⟩ := List.mem_map.mp h
  refine ⟨call, hcall, ?_⟩
  rw [PathCall.entry, hescaped call hcall]
  rfl

/-- Escaped values have no delimiter. -/
theorem delimiter_not_mem_entries {d : Char} (hd : d ∈ pathDelimiters) :
    ∀ entry ∈ calls.map PathCall.entry, d ∉ entry.2 := by
  have hspecial : pathDelimiters ⊆ Text.pathSpecials := by decide
  have hpercent : '%' ∉ pathDelimiters := by decide
  intro entry hentry
  obtain ⟨call, -, hvalue⟩ := escaped_of_mem_entries hescaped hentry
  rw [hvalue]
  exact Text.not_mem_escapePath (hspecial hd) (fun he => hpercent (he ▸ hd)) _

end

/-! ### What is escaped -/

/-- The replacements that are recorded stand for the values, and no two values have the same one. Of
the parts of a template the groups that are listed give way, and the result has as many of each
delimiter as the characters that stay: none comes from a value, and none is lost. -/
theorem escaped_values_keep_structure {verb : Verb} {base template : String} {encoding : Encoding}
    {calls : List PathCall} {b : RequestBuilder} (hescaped : ∀ c ∈ calls, c.encoded = false)
    (hrecord : (RequestBuilder.new verb base template encoding).recordPaths calls = .ok b) :
    List.Forall₂ (fun c entry => entry.1 = c.name.toList ∧
        Text.unescape (Text.utf8 entry.2) = Text.octetsOf c.value) calls b.paths ∧
      (Function.Injective fun value => encodePathValue value false) ∧
      (parts b.paths template.toList).flatMap Piece.text = template.toList ∧
      substitute template.toList b.paths =
        (parts b.paths template.toList).flatMap (Piece.fill b.paths) ∧
      ∀ d ∈ pathDelimiters, (substitute template.toList b.paths).count d =
        (literals (parts b.paths template.toList)).count d := by
  obtain ⟨-, rfl⟩ := RequestBuilder.recordPaths_eq_ok.mp hrecord
  simp only [RequestBuilder.new, List.nil_append]
  refine ⟨?_, ?_, flatMap_text_parts, substitute_eq_flatMap_parts, ?_⟩
  · rw [List.forall₂_map_right_iff, List.forall₂_same]
    intro c hc
    refine ⟨rfl, ?_⟩
    rw [PathCall.entry, hescaped c hc]
    exact Text.unescape_escapePath c.value.toList
  · intro value value' h
    exact String.toList_inj.mp (Text.escapePath_injective h)
  · intro d hd
    exact count_substitute (delimiter_not_mem_entries hescaped hd)

/-- Values that are made of delimiters and escapes come back, and bring none into the template. -/
theorem escaped_values_keep_structure_of_delimiters :
    ∃ b, (RequestBuilder.new .get "https://h" "/x/{a}/{b}{c}?{a}" .none).recordPaths
        [⟨"a", "/\\?#\x7b\x7d%", false⟩, ⟨"b", "%2Fé", false⟩] = .ok b ∧
      substitute "/x/{a}/{b}{c}?{a}".toList b.paths =
        "/x/%2F%5C%3F%23%7B%7D%25/%252F%C3%A9{c}?%2F%5C%3F%23%7B%7D%25".toList ∧
      b.paths.map (fun entry => Text.unescape (Text.utf8 entry.2)) =
        [Text.octetsOf "/\\?#\x7b\x7d%", Text.octetsOf "%2Fé"] ∧
      ∀ d ∈ pathDelimiters, (substitute "/x/{a}/{b}{c}?{a}".toList b.paths).count d =
        "/x//\x7bc\x7d?".toList.count d := by
  have hrecord : (RequestBuilder.new .get "https://h" "/x/{a}/{b}{c}?{a}" .none).recordPaths
      [⟨"a", "/\\?#\x7b\x7d%", false⟩, ⟨"b", "%2Fé", false⟩] =
        .ok { RequestBuilder.new .get "https://h" "/x/{a}/{b}{c}?{a}" .none with
          paths := [("a".toList, "%2F%5C%3F%23%7B%7D%25".toList),
            ("b".toList, "%252F%C3%A9".toList)] } := by
    rfl
  obtain ⟨hread, -, -, -, hcount⟩ := escaped_values_keep_structure (by decide) hrecord
  have hliterals : literals (parts [("a".toList, "%2F%5C%3F%23%7B%7D%25".toList),
      ("b".toList, "%252F%C3%A9".toList)] "/x/{a}/{b}{c}?{a}".toList) =
        "/x//\x7bc\x7d?".toList := by
    decide +kernel
  obtain ⟨⟨-, ha⟩, hrest⟩ := List.forall₂_cons.mp hread
  obtain ⟨⟨-, hb⟩, -⟩ := List.forall₂_cons.mp hrest
  refine ⟨_, hrecord, by decide +kernel, by rw [List.map_cons, List.map_cons, ha, hb]; rfl, ?_⟩
  intro d hd
  rw [hcount d hd, hliterals]

/-! ### Dot segments -/

theorem not_isDotSegment_escapePath {value : String} (h : isTraversal value = false) :
    ¬ IsDotSegment (Text.escapePath value.toList) := by
  have hdot : Text.escapePath ['.'] = ['.'] := by decide
  have hdots : Text.escapePath ['.', '.'] = ['.', '.'] := by decide
  rintro (he | he)
  · have hvalue := Text.escapePath_injective (he.trans hdot.symm)
    obtain rfl : value = "." := String.toList_inj.mp hvalue
    cases h
  · have hvalue := Text.escapePath_injective (he.trans hdots.symm)
    obtain rfl : value = ".." := String.toList_inj.mp hvalue
    cases h

/-- The segments of the path of a template with escaped values in it are its own segments with the
values in them. Such a segment is a dot segment exactly when its characters that stay are one and
all its values are empty: it is literally in the template, or it has dots beside empty values. -/
theorem dot_segment_of_values_iff {verb : Verb} {base template : String} {encoding : Encoding}
    {calls : List PathCall} {b : RequestBuilder} (hescaped : ∀ c ∈ calls, c.encoded = false)
    (hrecord : (RequestBuilder.new verb base template encoding).recordPaths calls = .ok b) :
    Text.segments '/' (Url.beforeQuery (substitute template.toList b.paths)) =
        (templateSegments b.paths template.toList).map (·.flatMap (Piece.fill b.paths)) ∧
      ∀ s ∈ templateSegments b.paths template.toList,
        IsDotSegment (s.flatMap (Piece.fill b.paths)) ↔
          IsDotSegment (literals s) ∧
            ∀ name, .group name ∈ s → lookup? b.paths name = some [] := by
  obtain ⟨haccepted, rfl⟩ := RequestBuilder.recordPaths_eq_ok.mp hrecord
  simp only [RequestBuilder.new, List.nil_append]
  constructor
  · refine segments_substitute fun entry hentry c hc => ?_
    have hdelimiters : pathMarks ⊆ pathDelimiters := by decide
    exact delimiter_not_mem_entries hescaped (hdelimiters hc) entry hentry
  · intro s hs
    have hlisted : ∀ name, .group name ∈ s → ∃ call ∈ calls,
        lookup? (calls.map PathCall.entry) name = some (Text.escapePath call.value.toList) := by
      intro name hname
      obtain ⟨entry, hentry, hlookup⟩ :=
        fill_of_group_mem_parts (mem_parts_of_mem_templateSegments hs hname)
      obtain ⟨call, hcall, hvalue⟩ := escaped_of_mem_entries hescaped hentry
      exact ⟨call, hcall, hvalue ▸ hlookup⟩
    have hvalues : ∀ name, .group name ∈ s →
        ¬ IsDotSegment ((Piece.group name).fill (calls.map PathCall.entry)) := by
      intro name hname
      obtain ⟨call, hcall, hlookup⟩ := hlisted name hname
      rw [Piece.fill_of_lookup? hlookup]
      exact not_isDotSegment_escapePath (haccepted call hcall (hescaped call hcall))
    rw [isDotSegment_fill_iff hvalues]
    refine and_congr_right fun _ => forall₂_congr fun name hname => ?_
    obtain ⟨call, -, hlookup⟩ := hlisted name hname
    rw [Piece.fill_of_lookup? hlookup, hlookup, Option.some_inj]

/-- A value with dots and slashes stays in its segment; empty values beside dots leave dot segments
behind. -/
theorem dot_segment_of_values_iff_of_dots :
    ∃ b, (RequestBuilder.new .get "https://h" "/{dir}/./..{name}?{dir}/.." .none).recordPaths
        [⟨"dir", "../.", false⟩, ⟨"name", "", false⟩] = .ok b ∧
      [.char '.', .char '.', .group "name".toList] ∈
        templateSegments b.paths "/{dir}/./..{name}?{dir}/..".toList ∧
      Text.segments '/' (Url.beforeQuery
          (substitute "/{dir}/./..{name}?{dir}/..".toList b.paths)) =
        [[], "..%2F.".toList, ".".toList, "..".toList] ∧
      IsDotSegment ([Piece.char '.', .char '.', .group "name".toList].flatMap
        (Piece.fill b.paths)) := by
  have hrecord :
      (RequestBuilder.new .get "https://h" "/{dir}/./..{name}?{dir}/.." .none).recordPaths
          [⟨"dir", "../.", false⟩, ⟨"name", "", false⟩] =
        .ok { RequestBuilder.new .get "https://h" "/{dir}/./..{name}?{dir}/.." .none with
          paths := [("dir".toList, "..%2F.".toList), ("name".toList, [])] } := by
    rfl
  have hsegment : [.char '.', .char '.', .group "name".toList] ∈
      templateSegments [("dir".toList, "..%2F.".toList), ("name".toList, [])]
        "/{dir}/./..{name}?{dir}/..".toList := by
    decide +kernel
  obtain ⟨hsegments, hiff⟩ := dot_segment_of_values_iff (by decide) hrecord
  refine ⟨_, hrecord, hsegment, hsegments.trans (by decide +kernel), ?_⟩
  rw [hiff _ hsegment]
  refine ⟨.inr rfl, fun name hname => ?_⟩
  obtain rfl : name = "name".toList := by simpa using hname
  rfl

/-- Two accepted values leave a dot segment where the template has none. -/
theorem dot_segment_of_empty_values :
    ∃ b, (RequestBuilder.new .get "https://h" "/files/{name}.{ext}" .none).recordPaths
        [⟨"name", "", false⟩, ⟨"ext", "", false⟩] = .ok b ∧
      substitute "/files/{name}.{ext}".toList b.paths = "/files/.".toList ∧
      (∃ segment ∈ Text.segments '/' (Url.beforeQuery
        (substitute "/files/{name}.{ext}".toList b.paths)), IsDotSegment segment) ∧
      ∀ segment ∈ Text.segments '/' (Url.beforeQuery "/files/{name}.{ext}".toList),
        ¬ IsDotSegment segment := by
  have hrecord : (RequestBuilder.new .get "https://h" "/files/{name}.{ext}" .none).recordPaths
      [⟨"name", "", false⟩, ⟨"ext", "", false⟩] =
        .ok { RequestBuilder.new .get "https://h" "/files/{name}.{ext}" .none with
          paths := [("name".toList, []), ("ext".toList, [])] } := by
    rfl
  exact ⟨_, hrecord, by decide +kernel, by decide +kernel, by decide⟩

end RestClient.Http
