import RestClient.Proofs.Interface.Methods
import RestClient.Proofs.Template.Occurrences

/-!
# Path parameters and placeholders

A template is checked against the names of the path parameters: every placeholder needs its name
among them, and there may be as many names as placeholders. As no placeholder is listed twice, this
makes them correspond one to one.

## Main definitions

- `PathsMatch` — path parameters in correspondence with the placeholders of a template
- `UrlSource.templateText` — the template of an address

## Main results

- `pathsMatch_iff` — the correspondence as a permutation of names
- `path_parameters_match` — the check, and what it means for a method that is accepted
-/

namespace RestClient

open Code (Method)
open Template (HasPlaceholder placeholders isName mem_placeholders nodup_placeholders)

/-- A parameter that takes the place of a placeholder. -/
def ParameterDescriptor.fills (placeholder : List Char) (p : ParameterDescriptor) : Bool :=
  match p.role with
  | .path name _ => name.toList == placeholder
  | _ => false

/-- Path parameters in correspondence with the placeholders of a template, none of which stands in
the query. -/
structure PathsMatch (template : List Char) (ps : List ParameterDescriptor) : Prop where
  one_parameter : ∀ name, HasPlaceholder template name → ∃ p, ps.filter (·.fills name) = [p]
  has_placeholder : ∀ p ∈ ps, ∀ name encoded, p.role = .path name encoded →
    HasPlaceholder template name.toList
  distinct : (pathNames ps).Nodup
  before_query : ∀ front name behind, template = front ++ '{' :: (name ++ '}' :: behind) →
    isName name = true → '?' ∉ front

variable {ps : List ParameterDescriptor} {template : List Char}

theorem mem_pathNames {name : String} :
    name ∈ pathNames ps ↔ ∃ p ∈ ps, ∃ encoded, p.role = .path name encoded := by
  rw [pathNames, List.mem_filterMap]
  refine exists_congr fun p => and_congr_right fun _ => ?_
  cases p.role <;> simp

/-- As many parameters take the place of a placeholder as there are path parameters of its name. -/
theorem length_filter_fills (ps : List ParameterDescriptor) (name : List Char) :
    (ps.filter (·.fills name)).length = ((pathNames ps).map String.toList).count name := by
  rw [← List.countP_eq_length_filter]
  induction ps with
  | nil => rfl
  | cons p ps ih =>
    rw [List.countP_cons, ih]
    obtain ⟨_, _, role, _, _, _⟩ := p
    cases role <;> simp [pathNames, ParameterDescriptor.fills, List.count_cons]

theorem mem_map_pathNames {name : List Char} :
    name ∈ (pathNames ps).map String.toList ↔ ∃ p ∈ ps, p.fills name = true := by
  rw [← List.count_pos_iff, ← length_filter_fills, ← List.countP_eq_length_filter,
    List.countP_pos_iff]

/-- Path parameters correspond to placeholders if their names are those of the placeholders in any
order. -/
theorem pathsMatch_iff :
    PathsMatch template ps ↔
      (∀ name, ¬ HasPlaceholder (queryPart template) name) ∧
        ((pathNames ps).map String.toList).Perm (placeholders template) := by
  rw [forall_not_hasPlaceholder_queryPart_iff_before]
  constructor
  · intro h
    have hnodup : ((pathNames ps).map String.toList).Nodup :=
      h.distinct.map fun _ _ heq => String.toList_injective heq
    -- neither list has a name twice, so it is enough that both have the same names
    refine ⟨h.before_query, (List.perm_ext_iff_of_nodup hnodup (nodup_placeholders _)).mpr ?_⟩
    intro name
    rw [mem_placeholders]
    constructor
    · intro hm
      obtain ⟨n, hn, rfl⟩ := List.mem_map.mp hm
      obtain ⟨p, hp, encoded, hrole⟩ := mem_pathNames.mp hn
      exact h.has_placeholder p hp n encoded hrole
    · intro hplaceholder
      obtain ⟨p, hfilter⟩ := h.one_parameter name hplaceholder
      have hp : p ∈ ps.filter (·.fills name) := by simp [hfilter]
      exact mem_map_pathNames.mpr ⟨p, List.mem_filter.mp hp⟩
  · rintro ⟨hquery, hperm⟩
    have hnodup := hperm.nodup_iff.mpr (nodup_placeholders template)
    refine ⟨?_, ?_, hnodup.of_map, hquery⟩
    · intro name hplaceholder
      have hm := hperm.mem_iff.mpr (mem_placeholders.mpr hplaceholder)
      have hone := List.count_eq_one_of_mem hnodup hm
      rw [← length_filter_fills] at hone
      exact List.length_eq_one_iff.mp hone
    · intro p hp name encoded hrole
      have hn := mem_pathNames.mpr ⟨p, hp, encoded, hrole⟩
      exact mem_placeholders.mp (hperm.mem_iff.mp (List.mem_map_of_mem hn))

/-! ### Accepted methods -/

/-- The template of an address; an address that a parameter gives has none. -/
def UrlSource.templateText : UrlSource → List Char
  | .template text _ => text.toList
  | .parameter _ => []

theorem pathsMatch_nil (h : .path ∉ roleKinds ps) : PathsMatch [] ps := by
  have hnames : pathNames ps = [] := by
    rw [List.eq_nil_iff_forall_not_mem]
    intro name hm
    obtain ⟨p, hp, encoded, hrole⟩ := mem_pathNames.mp hm
    exact h (List.mem_map.mpr ⟨p, hp, by rw [hrole]; rfl⟩)
  rw [pathsMatch_iff, hnames]
  exact ⟨fun _ => Template.not_hasPlaceholder_nil, .refl _⟩

theorem Analyzed.pathsMatch {method : Method} {d : MethodDescriptor} (a : Analyzed method d) :
    PathsMatch d.url.templateText d.parameters := by
  have hurl := urlSource_eq_ok.mp a.url
  cases ht : a.template with
  | some used =>
    obtain ⟨text, place⟩ := used
    rw [ht] at hurl
    obtain ⟨hcheck, he⟩ := hurl
    rw [he]
    exact pathsMatch_iff.mpr (checkPlaceholders_eq_ok.mp hcheck)
  | none =>
    rw [ht] at hurl
    obtain ⟨hpath, p, _, he⟩ := hurl
    rw [he]
    exact pathsMatch_nil hpath

/-- A template accepts path parameters exactly when no placeholder stands from its first question
mark on and their names are those of its placeholders in any order. In a method that is accepted
the path parameters correspond to the placeholders. -/
theorem path_parameters_match :
    (∀ (template : String) (ps : List ParameterDescriptor),
      checkPlaceholders template (pathNames ps) = .ok () ↔
        (∀ path query, template.toList = path ++ '?' :: query → '?' ∉ path →
          ∀ name, ¬ HasPlaceholder ('?' :: query) name) ∧
        ((pathNames ps).map String.toList).Perm (placeholders template.toList)) ∧
      ∀ method d, analyzeMethod method = .ok d → PathsMatch d.url.templateText d.parameters := by
  refine ⟨fun template ps => ?_, fun method d h => ?_⟩
  · rw [checkPlaceholders_eq_ok, forall_not_hasPlaceholder_queryPart]
  · obtain ⟨a⟩ := analyzeMethod_eq_ok.mp h
    exact a.pathsMatch

/-- A method with two path parameters, in another order than the placeholders. -/
def findComment : Method where
  attributes := [⟨⟨⟨false, none, [⟨"get", none, false⟩]⟩,
    .list .parenthesis [.literal "\"/\x7bpost\x7d/\x7bcomment\x7d?all\"" .nowhere] .nowhere, []⟩,
    []⟩]
  signature :=
    { lead := [], asyncSpan := some .nowhere, name := "find", nameSpan := .nowhere, generics := []
      inputs := [(.receiver ⟨[], true, false, false, []⟩, []),
        (.typed (flaggedInput (some "path") "comment" (.reference [] (plainType "str"))), []),
        (.typed (flaggedInput (some "path") "post" (plainType "u32")), [])]
      variadic := [], parentheses := .nowhere, arrow := []
      output := some (appliedType "Result" (plainType "String")), whereClause := [] }
  body := none
  ending := []

/-- What is found out about the method. -/
def foundComment : MethodDescriptor where
  signature := cleanSignature findComment.signature
  attributes := []
  verb := .get
  url := .template "/\x7bpost\x7d/\x7bcomment\x7d?all" .nowhere
  encoding := .none
  headers := []
  parameters := [
    ⟨"comment", .reference [] (plainType "str"), .path "comment" false, .single, plainType "str",
      .nowhere⟩,
    ⟨"post", plainType "u32", .path "post" false, .single, plainType "u32", .nowhere⟩]
  returns := .value (plainType "String")
  callback := none

theorem path_parameters_match_comment :
    analyzeMethod findComment = .ok foundComment ∧
      pathNames foundComment.parameters = ["comment", "post"] ∧
      placeholders foundComment.url.templateText = ["post".toList, "comment".toList] ∧
      PathsMatch foundComment.url.templateText foundComment.parameters := by
  have h : analyzeMethod findComment = .ok foundComment := by rfl
  exact ⟨h, rfl, by decide +kernel, path_parameters_match.2 findComment foundComment h⟩

end RestClient
