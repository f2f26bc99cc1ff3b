import RestClient.Http.RequestBuilder
import RestClient.Proofs.Outcome
import RestClient.Proofs.Template.Nesting
import RestClient.Proofs.Template.Occurrences
import RestClient.Proofs.Text.Escaping

/-!
# Values of path parameters

A declaration is accepted when its path parameters are the placeholders of its template, and each
path parameter records one value under its name. Whether every placeholder of the template then
gets its value depends on the template alone: it does unless a placeholder follows an open brace.

## Main definitions

- `PathCall` — the value of a path parameter, as it is recorded
- `RequestBuilder.recordPaths` — several of them, one after the other
-/

namespace RestClient.Http

/-- The value of a path parameter, as it is recorded. -/
structure PathCall where
  name : String
  value : String
  encoded : Bool

/-- The name and the text that take the place of a placeholder. -/
def PathCall.entry (c : PathCall) : List Char × List Char :=
  (c.name.toList, encodePathValue c.value c.encoded)

/-- A builder in which values of path parameters have been recorded one after the other. -/
def RequestBuilder.recordPaths (b : RequestBuilder) (calls : List PathCall) :
    Except Failure RequestBuilder :=
  calls.foldlM (fun b c => b.add (.path c.name c.value c.encoded)) b

theorem RequestBuilder.add_path_eq_ok {b b' : RequestBuilder} {c : PathCall} :
    b.add (.path c.name c.value c.encoded) = .ok b' ↔
      (c.encoded = false → isTraversal c.value = false) ∧
        b' = { b with paths := b.paths ++ [c.entry] } := by
  simp only [RequestBuilder.add]
  split
  · next h => simp_all
  · next h =>
    have h : c.encoded = false → isTraversal c.value = false := by simpa using h
    constructor
    · intro he
      exact ⟨h, (Except.ok.inj he).symm⟩
    · rintro ⟨_, rfl⟩
      rfl

/-- Recording ends well unless a value would leave its place, and keeps what was recorded in
order. -/
theorem RequestBuilder.recordPaths_eq_ok {b b' : RequestBuilder} {calls : List PathCall} :
    b.recordPaths calls = .ok b' ↔
      (∀ c ∈ calls, c.encoded = false → isTraversal c.value = false) ∧
        b' = { b with paths := b.paths ++ calls.map PathCall.entry } := by
  induction calls generalizing b with
  | nil =>
    constructor
    · intro he
      exact ⟨by simp, by simpa using (Except.ok.inj he).symm⟩
    · rintro ⟨_, rfl⟩
      simp [recordPaths, pure, Except.pure]
  | cons c calls ih =>
    rw [recordPaths, Outcome.foldlM_cons_eq_ok]
    constructor
    · rintro ⟨d, hd, hrest⟩
      obtain ⟨hc, rfl⟩ := add_path_eq_ok.mp hd
      obtain ⟨hcalls, rfl⟩ := ih.mp hrest
      exact ⟨by simpa using ⟨hc, hcalls⟩, by simp⟩
    · rintro ⟨hc, rfl⟩
      obtain ⟨hc, hcalls⟩ := List.forall_mem_cons.mp hc
      exact ⟨_, add_path_eq_ok.mpr ⟨hc, rfl⟩, ih.mpr ⟨hcalls, by simp⟩⟩

/-- A value that is escaped brings no opening brace. -/
theorem PathCall.open_not_mem_entry {c : PathCall} (h : '{' ∈ c.value.toList → c.encoded = false) :
    '{' ∉ c.entry.2 := by
  simp only [entry, encodePathValue]
  split
  · next he =>
    intro hm
    simp [h hm] at he
  · exact Text.open_not_mem_escapePath _

end RestClient.Http

namespace RestClient

open Http (PathCall RequestBuilder)
open Template

variable {template : String} {parameters : List ParameterDescriptor} {calls : List PathCall}
  {verb : Verb} {baseUrl : String} {encoding : Encoding} {b : RequestBuilder}

/-- What an accepted declaration records is a value for every placeholder and for nothing else. -/
theorem recorded_names_perm (hcheck : checkPlaceholders template (pathNames parameters) = .ok ())
    (hnames : calls.map PathCall.name = pathNames parameters) :
    ((calls.map PathCall.entry).map (·.1)).Perm (placeholders template.toList) := by
  have hperm := (checkPlaceholders_eq_ok.mp hcheck).2
  rw [← hnames] at hperm
  simpa [PathCall.entry, Function.comp_def] using hperm

/-- What an accepted declaration records is a value for every placeholder and for nothing else.
Where no placeholder of the template follows an open brace, each of them gives way to its value and
all other text stays. Where one does, the address is another one for all values that are escaped or
bring no opening brace of their own. -/
theorem substitute_recorded_eq_filled
    (hcheck : checkPlaceholders template (pathNames parameters) = .ok ())
    (hnames : calls.map PathCall.name = pathNames parameters)
    (hrecord : (RequestBuilder.new verb baseUrl template encoding).recordPaths calls = .ok b) :
    (∀ name value, (name, value) ∈ b.paths →
        Piece.group name ∈ placeholderPieces template.toList ∧
          (Piece.group name).fill b.paths = value) ∧
      (∀ name, Piece.group name ∈ placeholderPieces template.toList →
        ∃ value, (name, value) ∈ b.paths) ∧
      (¬ HasNestedPlaceholder template.toList →
        substitute b.template.toList b.paths = filled template.toList b.paths) ∧
      (HasNestedPlaceholder template.toList →
        (∀ c ∈ calls, '{' ∈ c.value.toList → c.encoded = false) →
        substitute b.template.toList b.paths ≠ filled template.toList b.paths) := by
  obtain ⟨_, rfl⟩ := RequestBuilder.recordPaths_eq_ok.mp hrecord
  have hperm := recorded_names_perm hcheck hnames
  simp only [RequestBuilder.new, List.nil_append]
  refine ⟨?_, ?_, ?_, ?_⟩
  · intro name value hm
    have hname : name ∈ (calls.map PathCall.entry).map (·.1) := List.mem_map.mpr ⟨_, hm, rfl⟩
    have hnodup := hperm.nodup_iff.mpr (nodup_placeholders _)
    refine ⟨group_mem_placeholderPieces.mpr (hperm.mem_iff.mp hname), ?_⟩
    rw [Piece.fill, lookup?_eq_some_of_mem hnodup hm, Option.getD_some]
  · intro name hm
    have hname := hperm.mem_iff.mpr (group_mem_placeholderPieces.mp hm)
    obtain ⟨⟨_, value⟩, hentry, rfl⟩ := List.mem_map.mp hname
    exact ⟨value, hentry⟩
  · intro hnest
    exact substitute_eq_filled hnest hperm
  · intro hnest hopen heq
    -- the brace that is left over tells the two texts apart, as no value brings one
    have hvalues : ∀ entry ∈ calls.map PathCall.entry, '{' ∉ entry.2 := by
      intro entry hm
      obtain ⟨c, hc, rfl⟩ := List.mem_map.mp hm
      exact PathCall.open_not_mem_entry (hopen c hc)
    have hlt := count_filled_lt hnest hperm hvalues
    rw [heq] at hlt
    exact lt_irrefl _ hlt

/-- A path parameter of a text, named as its placeholder. -/
def pathParameter (name : String) (encoded : Bool) : ParameterDescriptor :=
  ⟨name, .named "String" [], .path name encoded, .single, .named "String" [], .nowhere⟩

/-- One value is inserted as it is, the other is escaped, and a group without a name stays. -/
theorem substitute_recorded_two_paths :
    checkPlaceholders "/u/{id}/{path}{}" (pathNames [pathParameter "path" true,
        pathParameter "id" false]) = .ok () ∧
      (RequestBuilder.new .get "https://h" "/u/{id}/{path}{}" .none).recordPaths
          [⟨"path", "a/{id}", true⟩, ⟨"id", "7/\x7b", false⟩] =
        .ok { RequestBuilder.new .get "https://h" "/u/{id}/{path}{}" .none with
          paths := [("path".toList, "a/{id}".toList), ("id".toList, "7%2F%7B".toList)] } ∧
      ¬ HasNestedPlaceholder "/u/{id}/{path}{}".toList ∧
      substitute "/u/{id}/{path}{}".toList
          [("path".toList, "a/{id}".toList), ("id".toList, "7%2F%7B".toList)] =
        filled "/u/{id}/{path}{}".toList
          [("path".toList, "a/{id}".toList), ("id".toList, "7%2F%7B".toList)] := by
  have hcheck : checkPlaceholders "/u/{id}/{path}{}" (pathNames [pathParameter "path" true,
      pathParameter "id" false]) = .ok () := by rfl
  have hrecord : (RequestBuilder.new .get "https://h" "/u/{id}/{path}{}" .none).recordPaths
      [⟨"path", "a/{id}", true⟩, ⟨"id", "7/\x7b", false⟩] =
        .ok { RequestBuilder.new .get "https://h" "/u/{id}/{path}{}" .none with
          paths := [("path".toList, "a/{id}".toList), ("id".toList, "7%2F%7B".toList)] } := by
    rfl
  have hpieces : pieces "/u/{id}/{path}{}".toList =
      [.char '/', .char 'u', .char '/', .group "id".toList, .char '/', .group "path".toList,
        .group []] := by
    decide +kernel
  have hnest : ¬ HasNestedPlaceholder "/u/{id}/{path}{}".toList := by
    rw [hasNestedPlaceholder_iff, hpieces]
    rintro ⟨p, hp, hnest⟩
    cases p with
    | char c => exact hnest
    | group text =>
      have hopen := hnest.open_mem
      have htext : text = "id".toList ∨ text = "path".toList ∨ text = [] := by simpa using hp
      rcases htext with rfl | rfl | rfl <;> simp at hopen
  have h := substitute_recorded_eq_filled hcheck rfl hrecord
  exact ⟨hcheck, hrecord, hnest, h.2.2.1 hnest⟩

/-- A template with a placeholder that stands directly behind an open brace. -/
def bracedTemplate : String :=
  "/x/\x7b\x7bid\x7d"

/-- A brace in front of an accepted placeholder takes the value away from it. -/
theorem substitute_behind_open_brace :
    checkPlaceholders bracedTemplate ["id"] = .ok () ∧
      (RequestBuilder.new .get "https://h" bracedTemplate .none).recordPaths
          [⟨"id", "7", false⟩] =
        .ok { RequestBuilder.new .get "https://h" bracedTemplate .none with
          paths := [("id".toList, "7".toList)] } ∧
      substitute bracedTemplate.toList [("id".toList, "7".toList)] = bracedTemplate.toList ∧
      filled bracedTemplate.toList [("id".toList, "7".toList)] = "/x/\x7b7".toList := by
  refine ⟨rfl, ?_, ?_, ?_⟩
  · rfl
  · decide +kernel
  · decide +kernel

end RestClient
