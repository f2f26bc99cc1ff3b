import RestClient.Proofs.Http.Building
import RestClient.Proofs.Template.Cutting
import RestClient.Proofs.Text.Escaping
import Mathlib.Data.List.DropRight

/-!
# Addresses under a base

An escaped value of a path brings no slash into an address. So the two slashes behind a scheme are
always those of the template, and an address leaves its base only where the template has them and
the values in front of them, and empty ones between them, make a scheme of its beginning.

## Main definitions

- `IsScheme` — a scheme with its colon
- `SpellsScheme` — a template that values make absolute
- `Contribution.LeavesTemplate` — contributions that bring no address of their own

## Main results

- `url_keeps_base` — where a request goes
- `scheme_of_value` — a request that leaves its base
-/

namespace RestClient.Http

open Template

/-! ### Schemes -/

/-- A scheme with its colon, in any case. -/
def IsScheme (cs : List Char) : Prop :=
  cs.map lowerAscii = "http:".toList ∨ cs.map lowerAscii = "https:".toList

theorem lowerAscii_eq_slash {c : Char} (h : lowerAscii c = '/') : c = '/' := by
  -- up to the last letter in upper case there are few characters, and the others stay
  have hall : ∀ n : Fin 91, lowerAscii (Char.ofNat n) = '/' → Char.ofNat n = '/' := by decide
  by_cases hsmall : c.toNat < 91
  · have hc := hall ⟨c.toNat, hsmall⟩
    rw [Char.ofNat_toNat] at hc
    exact hc h
  · unfold lowerAscii at h
    split at h
    · next hupper =>
      have hupper : 'A' ≤ c ∧ c ≤ 'Z' := by simpa using hupper
      have hhigh : c.toNat ≤ 90 := hupper.2
      omega
    · exact h

theorem map_lowerAscii_slashes {cs : List Char} (h : cs.map lowerAscii = ['/', '/']) :
    cs = ['/', '/'] := by
  obtain ⟨a, cs, rfl, ha, h⟩ := List.map_eq_cons_iff.mp h
  obtain ⟨b, cs, rfl, hb, h⟩ := List.map_eq_cons_iff.mp h
  obtain rfl := List.map_eq_nil_iff.mp h
  rw [lowerAscii_eq_slash ha, lowerAscii_eq_slash hb]

/-- A character that is no letter of a scheme and has no case stands in no scheme. -/
theorem IsScheme.not_mem {cs : List Char} (h : IsScheme cs) {c : Char}
    (hc : lowerAscii c ∉ "https:".toList) : c ∉ cs := by
  intro hmem
  have himage : lowerAscii c ∈ cs.map lowerAscii := List.mem_map_of_mem hmem
  rcases h with h | h
  · rw [h] at himage
    exact hc (by revert himage; simp; tauto)
  · rw [h] at himage
    exact hc himage

/-- An absolute address is a scheme, two slashes, and anything. -/
theorem isAbsolute_iff {address : List Char} : isAbsolute address = true ↔
    ∃ scheme rest, address = scheme ++ '/' :: '/' :: rest ∧ IsScheme scheme := by
  have hsplit : ∀ scheme : List Char,
      (scheme ++ ['/', '/']) <+: address.map lowerAscii ↔
        ∃ front rest, address = front ++ '/' :: '/' :: rest ∧ front.map lowerAscii = scheme := by
    intro scheme
    constructor
    · rintro ⟨lower, he⟩
      rw [List.append_assoc] at he
      obtain ⟨front, tail, rfl, hfront, htail⟩ := List.map_eq_append_iff.mp he.symm
      obtain ⟨slashes, rest, rfl, hslashes, -⟩ := List.map_eq_append_iff.mp htail
      rw [map_lowerAscii_slashes hslashes]
      exact ⟨front, rest, rfl, hfront⟩
    · rintro ⟨front, rest, rfl, rfl⟩
      exact ⟨rest.map lowerAscii, by simp [show lowerAscii '/' = '/' from rfl]⟩
  have hhttp := hsplit "http:".toList
  have hhttps := hsplit "https:".toList
  simp only [isAbsolute, Bool.or_eq_true, List.isPrefixOf_iff_prefix]
  constructor
  · rintro (h | h)
    · obtain ⟨front, rest, he, hfront⟩ := hhttp.mp h
      exact ⟨front, rest, he, .inl hfront⟩
    · obtain ⟨front, rest, he, hfront⟩ := hhttps.mp h
      exact ⟨front, rest, he, .inr hfront⟩
  · rintro ⟨front, rest, he, hfront | hfront⟩
    · exact .inl (hhttp.mpr ⟨front, rest, he, hfront⟩)
    · exact .inr (hhttps.mpr ⟨front, rest, he, hfront⟩)

/-! ### Templates that values make absolute -/

/-- The beginning of a template becomes a scheme when values are put in: the slashes behind the
scheme stand in the template, and some value in front of them or between them is needed. -/
def SpellsScheme (values : List (List Char × List Char)) (template : List Char) : Prop :=
  ∃ front between back,
    pieces template = front ++ .char '/' :: (between ++ .char '/' :: back) ∧
      IsScheme (front.flatMap (Piece.fill values)) ∧
      between.flatMap (Piece.fill values) = [] ∧
      ∃ name, .group name ∈ front ++ between ∧ (lookup? values name).isSome

section

variable {values : List (List Char × List Char)}

theorem slash_not_mem_of_lookup? (hvalues : ∀ entry ∈ values, '/' ∉ entry.2) {name : List Char}
    {value : List Char} (h : lookup? values name = some value) : '/' ∉ value := by
  obtain ⟨entry, hfind, rfl⟩ := Option.map_eq_some_iff.mp h
  exact hvalues entry (List.mem_of_find?_eq_some hfind)

/-- A slash with neither a slash nor an opening brace in front of it stands in the template
itself. -/
theorem pieces_split_at_slash (hvalues : ∀ entry ∈ values, '/' ∉ entry.2) {ps : List Piece}
    {before after : List Char} (hfill : ps.flatMap (Piece.fill values) = before ++ '/' :: after)
    (hslash : '/' ∉ before) (hopen : '{' ∉ before) :
    ∃ front back, ps = front ++ .char '/' :: back ∧
      front.flatMap (Piece.fill values) = before ∧ back.flatMap (Piece.fill values) = after := by
  induction ps generalizing before with
  | nil => simp at hfill
  | cons p ps ih =>
    rw [List.flatMap_cons] at hfill
    cases p with
    | char c =>
      cases before with
      | nil =>
        obtain ⟨rfl, rfl⟩ := List.cons.inj hfill
        exact ⟨[], ps, rfl, rfl, rfl⟩
      | cons d before =>
        obtain ⟨rfl, htail⟩ := List.cons.inj hfill
        obtain ⟨front, back, rfl, rfl, hback⟩ := ih htail (by simp_all) (by simp_all)
        exact ⟨.char c :: front, back, rfl, rfl, hback⟩
    | group name =>
      cases hlookup : lookup? values name with
      | none =>
        -- a group that stays begins with a brace, which has no place in front of the slash
        rw [Piece.fill, hlookup] at hfill
        cases before with
        | nil => simp [Piece.text] at hfill
        | cons d before =>
          obtain rfl : '{' = d := (List.cons.inj hfill).1
          simp at hopen
      | some value =>
        have hvalue := slash_not_mem_of_lookup? hvalues hlookup
        have hgroup : (Piece.group name).fill values = value := by simp [Piece.fill, hlookup]
        rw [hgroup] at hfill
        rcases List.append_eq_append_iff.mp hfill with ⟨w, rfl, hw⟩ | ⟨w, rfl, hw⟩
        · obtain ⟨front, back, rfl, rfl, hback⟩ := ih hw (by simp_all) (by simp_all)
          exact ⟨.group name :: front, back, rfl, by rw [List.flatMap_cons, hgroup], hback⟩
        · cases w with
          | nil =>
            obtain ⟨front, back, rfl, hfront, hback⟩ :=
              @ih [] hw.symm List.not_mem_nil List.not_mem_nil
            exact ⟨.group name :: front, back, rfl,
              by rw [List.flatMap_cons, hgroup, hfront, List.append_nil, List.append_nil], hback⟩
          | cons d w =>
            obtain rfl : '/' = d := (List.cons.inj hw).1
            simp at hvalue

/-- Where no group has a value, the pieces keep their text. -/
theorem flatMap_fill_eq_text {ps : List Piece}
    (h : ∀ name, .group name ∈ ps → lookup? values name = none) :
    ps.flatMap (Piece.fill values) = ps.flatMap Piece.text := by
  refine List.flatMap_congr fun p hp => ?_
  cases p with
  | char c => rfl
  | group name => rw [Piece.fill, h name hp, Option.getD_none]

/-- Values without slashes make an address absolute only where the template has the slashes. -/
theorem isAbsolute_substitute_iff (hvalues : ∀ entry ∈ values, '/' ∉ entry.2)
    {template : List Char} (htemplate : isAbsolute template = false) :
    isAbsolute (substitute template values) = true ↔ SpellsScheme values template := by
  constructor
  · intro h
    obtain ⟨scheme, rest, hsplit, hscheme⟩ := isAbsolute_iff.mp h
    obtain ⟨front, tail, hpieces, rfl, htail⟩ := pieces_split_at_slash hvalues hsplit
      (hscheme.not_mem (by decide)) (hscheme.not_mem (by decide))
    obtain ⟨between, back, rfl, hbetween, hback⟩ :=
      @pieces_split_at_slash _ hvalues _ [] _ htail List.not_mem_nil List.not_mem_nil
    refine ⟨front, between, back, hpieces, hscheme, hbetween, ?_⟩
    -- without a value the scheme would be the template's own
    by_contra hnone
    have hnone : ∀ name, .group name ∈ front ++ between → lookup? values name = none := by
      intro name hname
      by_contra hsome
      exact hnone ⟨name, hname, Option.isSome_iff_ne_none.mpr hsome⟩
    have hfront := flatMap_fill_eq_text fun name hname =>
      hnone name (List.mem_append_left _ hname)
    have hmiddle := flatMap_fill_eq_text fun name hname =>
      hnone name (List.mem_append_right _ hname)
    have hown : isAbsolute template = true := by
      refine isAbsolute_iff.mpr ⟨front.flatMap Piece.text, back.flatMap Piece.text, ?_, ?_⟩
      · rw [← flatMap_text_pieces template, hpieces]
        simp [Piece.text, ← hmiddle, hbetween]
      · rw [← hfront]
        exact hscheme
    rw [htemplate] at hown
    cases hown
  · rintro ⟨front, between, back, hpieces, hscheme, hbetween, -⟩
    refine isAbsolute_iff.mpr
      ⟨front.flatMap (Piece.fill values), back.flatMap (Piece.fill values), ?_, hscheme⟩
    rw [substitute, hpieces]
    simp [Piece.fill, hbetween]

end

/-! ### The base of an address -/

/-- A relative address stands behind its base without the slashes at the end of the base. -/
theorem base_prefix_resolve {base address : List Char} (hbase : base ≠ [])
    (habsolute : isAbsolute address = false) :
    base.rdropWhile (· == '/') <+: resolve base address := by
  have hstart : ¬ (isAbsolute address || base.isEmpty) = true := by simp [habsolute, hbase]
  unfold resolve
  rw [if_neg hstart]
  split
  · exact List.rdropWhile_prefix _ _
  · exact List.prefix_append _ _

/-- A query leaves what stands in front of the fragment. -/
theorem RequestBuilder.prefix_withQuery {pairs : List (List Char)} {front address : List Char}
    (h : front <+: address) (hfragment : '#' ∉ front) : front <+: withQuery pairs address := by
  unfold withQuery
  split
  · exact h
  · obtain ⟨tail, rfl⟩ := h
    have hall : ∀ c ∈ front, (c != '#') = true := by
      intro c hc
      exact bne_iff_ne.mpr fun he => hfragment (he ▸ hc)
    rw [List.takeWhile_append_of_pos hall, List.append_assoc, List.append_assoc]
    exact List.prefix_append _ _

theorem RequestBuilder.isAbsolute_withQuery {pairs : List (List Char)} {address : List Char}
    (h : isAbsolute address = true) : isAbsolute (withQuery pairs address) = true := by
  obtain ⟨scheme, rest, rfl, hscheme⟩ := isAbsolute_iff.mp h
  have hfragment : '#' ∉ scheme ++ ['/', '/'] := by
    simpa using hscheme.not_mem (c := '#') (by decide)
  have hprefix : scheme ++ ['/', '/'] <+: scheme ++ '/' :: '/' :: rest := ⟨rest, by simp⟩
  obtain ⟨tail, htail⟩ := @prefix_withQuery pairs _ _ hprefix hfragment
  exact isAbsolute_iff.mpr ⟨scheme, tail, by simp [← htail], hscheme⟩

/-! ### Requests -/

/-- A contribution that brings no address of its own, and no value of a path as it is. -/
def Contribution.LeavesTemplate : Contribution → Prop
  | url _ => False
  | path _ _ encoded => encoded = false
  | _ => True

section

variable {calls : List Contribution} (hcalls : ∀ c ∈ calls, c.LeavesTemplate)
include hcalls

theorem no_url_of_leavesTemplate : calls.filterMap Contribution.url? = [] := by
  refine List.filterMap_eq_nil_iff.mpr fun c hc => ?_
  have hleaves := hcalls c hc
  cases c with
  | url value => exact hleaves.elim
  | _ => rfl

theorem slash_not_mem_of_leavesTemplate :
    ∀ entry ∈ calls.filterMap Contribution.path?, '/' ∉ entry.2 := by
  intro entry hentry
  obtain ⟨c, hc, hpath⟩ := List.mem_filterMap.mp hentry
  have hleaves := hcalls c hc
  cases c with
  | path name value encoded =>
    obtain rfl : encoded = false := hleaves
    obtain rfl := Option.some.inj hpath
    exact Text.not_mem_escapePath (by decide) (by decide) value.toList
  | _ => cases hpath

end

/-- A request whose template is not absolute starts with its base, whatever is contributed to it
besides escaped values of paths, unless values make a scheme of the beginning of the template. Then,
and only then, nothing of the base is in the address. -/
theorem url_keeps_base {verb : Verb} {base template : String} {encoding : Encoding}
    {calls : List Contribution} {b : RequestBuilder} {request : Request}
    (hbase : base ≠ "") (hfragment : '#' ∉ base.toList)
    (htemplate : isAbsolute template.toList = false) (hcalls : ∀ c ∈ calls, c.LeavesTemplate)
    (hadd : calls.foldlM RequestBuilder.add (.new verb base template encoding) = .ok b)
    (hbuild : b.build = .ok request) :
    (¬ SpellsScheme b.paths template.toList →
        base.toList.rdropWhile (· == '/') <+: request.url.toList) ∧
      (SpellsScheme b.paths template.toList →
        request.url.toList =
            RequestBuilder.withQuery b.query (substitute template.toList b.paths) ∧
          isAbsolute request.url.toList = true) := by
  obtain rfl := RequestBuilder.foldlM_add_eq_after hadd
  obtain ⟨-, rfl⟩ := RequestBuilder.build_eq_ok.mp hbuild
  set b := (RequestBuilder.new verb base template encoding).after calls with hb
  have hpaths : b.paths = calls.filterMap Contribution.path? := by
    simp [hb, RequestBuilder.after, RequestBuilder.new]
  have haddress : b.address = resolve base.toList (substitute template.toList b.paths) := by
    simp [hb, RequestBuilder.address, RequestBuilder.after, RequestBuilder.new,
      no_url_of_leavesTemplate hcalls]
  have hiff : isAbsolute (substitute template.toList b.paths) = true ↔
      SpellsScheme b.paths template.toList :=
    isAbsolute_substitute_iff (hpaths ▸ slash_not_mem_of_leavesTemplate hcalls) htemplate
  have hurl : (String.ofList b.url).toList = RequestBuilder.withQuery b.query b.address := by
    rw [String.toList_ofList]
    rfl
  dsimp only
  rw [hurl, haddress]
  constructor
  · intro hscheme
    have hrelative : isAbsolute (substitute template.toList b.paths) = false := by
      rw [← Bool.not_eq_true, hiff]
      exact hscheme
    refine RequestBuilder.prefix_withQuery (base_prefix_resolve ?_ hrelative) ?_
    · simpa using hbase
    · exact fun hmem => hfragment ((List.rdropWhile_prefix _ _).subset hmem)
  · intro hscheme
    have habsolute := hiff.mpr hscheme
    have hresolve : resolve base.toList (substitute template.toList b.paths) =
        substitute template.toList b.paths := by
      rw [resolve, habsolute]
      rfl
    rw [hresolve]
    exact ⟨rfl, RequestBuilder.isAbsolute_withQuery habsolute⟩

/-- A value that looks like an address stays in its place, behind a base that ends in slashes. -/
theorem url_keeps_base_of_address_value :
    ∃ b request,
      [Contribution.path "id" "http://e/?#" false, .query "q" "1" false].foldlM RequestBuilder.add
          (.new .get "https://h/v//" "{id}//x#f" .none) = .ok b ∧
        b.build = .ok request ∧ ¬ SpellsScheme b.paths "{id}//x#f".toList ∧
        "https://h/v".toList <+: request.url.toList ∧
        request.url = "https://h/v/http:%2F%2Fe%2F%3F%23//x?q=1#f" := by
  have hadd : [Contribution.path "id" "http://e/?#" false, .query "q" "1" false].foldlM
      RequestBuilder.add (.new .get "https://h/v//" "{id}//x#f" .none) =
        .ok { RequestBuilder.new .get "https://h/v//" "{id}//x#f" .none with
          paths := [("id".toList, "http:%2F%2Fe%2F%3F%23".toList)], query := ["q=1".toList] } := by
    rfl
  have hbuild : RequestBuilder.build { RequestBuilder.new .get "https://h/v//" "{id}//x#f" .none
      with paths := [("id".toList, "http:%2F%2Fe%2F%3F%23".toList)], query := ["q=1".toList] } =
        .ok ⟨.get, "https://h/v/http:%2F%2Fe%2F%3F%23//x?q=1#f", [], .empty⟩ := by
    decide +kernel
  have hscheme : ¬ SpellsScheme [("id".toList, "http:%2F%2Fe%2F%3F%23".toList)]
      "{id}//x#f".toList := by
    rw [← isAbsolute_substitute_iff (by decide) (by decide)]
    decide +kernel
  have hcalls : ∀ c ∈ [Contribution.path "id" "http://e/?#" false, .query "q" "1" false],
      c.LeavesTemplate := by
    simp [Contribution.LeavesTemplate]
  obtain ⟨hbase, -⟩ := url_keeps_base (by decide) (by decide) (by decide) hcalls hadd hbuild
  exact ⟨_, _, hadd, hbuild, hscheme, hbase hscheme, rfl⟩

/-- A value that is a scheme, in front of the slashes of its template: the request leaves its
base. -/
theorem scheme_of_value :
    isAbsolute "{s}://e/x".toList = false ∧
      ∃ b request,
        [Contribution.path "s" "http" false].foldlM RequestBuilder.add
            (.new .get "https://h" "{s}://e/x" .none) = .ok b ∧
          b.build = .ok request ∧ request.url = "http://e/x" ∧
          ¬ "https://h".toList.rdropWhile (· == '/') <+: request.url.toList := by
  have hadd : [Contribution.path "s" "http" false].foldlM RequestBuilder.add
      (.new .get "https://h" "{s}://e/x" .none) =
        .ok { RequestBuilder.new .get "https://h" "{s}://e/x" .none with
          paths := [("s".toList, "http".toList)] } := by
    rfl
  have hbuild : RequestBuilder.build { RequestBuilder.new .get "https://h" "{s}://e/x" .none with
      paths := [("s".toList, "http".toList)] } = .ok ⟨.get, "http://e/x", [], .empty⟩ := by
    decide +kernel
  exact ⟨by decide, _, _, hadd, hbuild, rfl, by decide⟩

end RestClient.Http
