import RestClient.Proofs.Code.Taking
import RestClient.Proofs.Interface.Methods
import RestClient.Proofs.Text.Trim

/-!
# Literal headers

A header is written as its name, a colon and its value, with any blanks around both. The name has
no colon, so the first one ends it; the value may have more. An attribute lists such literals, one
at least, and is refused as a whole where one of them is no header. The attributes of a method add
up: each literal is one header of the method, in the order in which they are written.

## Main definitions

- `HeaderLiteral.IsPlain` — headers that can be written
- `HeaderLiteral.WrittenAs` — how a header is written
- `ListsLiterals` — the literals in an attribute

## Main results

- `HeaderLiteral.parse?_eq_some` — the texts of headers
- `headersOfAttribute_eq_ok` — the attributes that are accepted
- `header_literals_kept` — literals, attributes and methods
-/

namespace RestClient

open Code (Span TokenTree Tokens Attribute Method Parser)
open Code.Parser (Meets Takes Breaks Separated IsValue)

/-! ### Literals -/

/-- A header that can be written: a name without a colon and a value, both not empty and without
blanks at their ends. -/
structure HeaderLiteral.IsPlain (h : HeaderLiteral) : Prop where
  name_ne : h.name ≠ ""
  name_trimmed : Text.IsTrimmed h.name.toList
  name_colon : ':' ∉ h.name.toList
  value_ne : h.value ≠ ""
  value_trimmed : Text.IsTrimmed h.value.toList

/-- A text of blanks. -/
def Text.IsBlankText (s : String) : Prop :=
  ∀ c ∈ s.toList, Text.isBlank c = true

/-- A text is a header with a colon between name and value, and with blanks around both. -/
def HeaderLiteral.WrittenAs (h : HeaderLiteral) (text : String) : Prop :=
  ∃ w₁ w₂ w₃ w₄ : String, Text.IsBlankText w₁ ∧ Text.IsBlankText w₂ ∧ Text.IsBlankText w₃ ∧
    Text.IsBlankText w₄ ∧ text = w₁ ++ h.name ++ w₂ ++ ":" ++ w₃ ++ h.value ++ w₄

theorem splitAtColon?_eq_some {cs name value : List Char} :
    splitAtColon? cs = some (name, value) ↔ cs = name ++ ':' :: value ∧ ':' ∉ name := by
  induction cs generalizing name with
  | nil => simp [splitAtColon?]
  | cons c cs ih =>
    rw [splitAtColon?]
    by_cases hc : c = ':'
    · subst hc
      rw [if_pos rfl]
      constructor
      · intro h
        obtain ⟨rfl, rfl⟩ := Prod.mk.inj (Option.some.inj h)
        exact ⟨rfl, List.not_mem_nil⟩
      · rintro ⟨h, hname⟩
        cases name with
        | nil =>
          obtain ⟨-, rfl⟩ := List.cons.inj h
          rfl
        | cons d name =>
          obtain ⟨rfl, -⟩ := List.cons.inj h
          exact absurd List.mem_cons_self hname
    · rw [if_neg hc, Option.map_eq_some_iff]
      constructor
      · rintro ⟨⟨front, back⟩, h, hpair⟩
        obtain ⟨rfl, rfl⟩ := Prod.mk.inj hpair
        obtain ⟨rfl, hfront⟩ := ih.mp h
        exact ⟨rfl, List.not_mem_cons_of_ne_of_not_mem (Ne.symm hc) hfront⟩
      · rintro ⟨h, hname⟩
        cases name with
        | nil => exact absurd (List.cons.inj h).1 hc
        | cons d name =>
          obtain ⟨rfl, rfl⟩ := List.cons.inj h
          exact ⟨(name, value), ih.mpr ⟨rfl, List.not_mem_of_not_mem_cons hname⟩, rfl⟩

theorem Text.IsBlankText.colon_notMem {s : String} (h : Text.IsBlankText s) : ':' ∉ s.toList := by
  intro hcolon
  have hblank := h ':' hcolon
  revert hblank
  decide

/-- A header is what stands on both sides of the first colon, trimmed. -/
theorem HeaderLiteral.parse?_eq_some_iff {text : String} {h : HeaderLiteral} :
    HeaderLiteral.parse? text = some h ↔ ∃ name value,
      splitAtColon? text.toList = some (name, value) ∧ Text.trimChars name = h.name.toList ∧
        Text.trimChars value = h.value.toList ∧ h.name ≠ "" ∧ h.value ≠ "" := by
  unfold HeaderLiteral.parse?
  cases hsplit : splitAtColon? text.toList with
  | none => simp
  | some pair =>
    obtain ⟨name, value⟩ := pair
    dsimp only
    constructor
    · intro hparse
      split at hparse
      · cases hparse
      · next hne =>
        obtain rfl := Option.some.inj hparse
        simp only [Bool.or_eq_true, List.isEmpty_iff, not_or] at hne
        refine ⟨name, value, rfl, by simp, by simp, ?_, ?_⟩
        · exact fun h => hne.1 (String.ofList_eq_empty_iff.mp h)
        · exact fun h => hne.2 (String.ofList_eq_empty_iff.mp h)
    · rintro ⟨name', value', hpair, hname, hvalue, hn, hv⟩
      obtain ⟨rfl, rfl⟩ := Prod.mk.inj (Option.some.inj hpair)
      rw [hname, hvalue, if_neg (by simp [hn, hv]), String.ofList_toList, String.ofList_toList]

/-- A text is a header where it is written as one. -/
theorem HeaderLiteral.parse?_eq_some {text : String} {h : HeaderLiteral} :
    HeaderLiteral.parse? text = some h ↔ h.IsPlain ∧ h.WrittenAs text := by
  rw [HeaderLiteral.parse?_eq_some_iff]
  constructor
  · rintro ⟨name, value, hsplit, hname, hvalue, hn, hv⟩
    obtain ⟨htext, hcolon⟩ := splitAtColon?_eq_some.mp hsplit
    obtain ⟨hntrim, w₁, w₂, hw₁, hw₂, rfl⟩ := Text.trimChars_eq_iff.mp hname
    obtain ⟨hvtrim, w₃, w₄, hw₃, hw₄, rfl⟩ := Text.trimChars_eq_iff.mp hvalue
    simp only [List.mem_append, not_or] at hcolon
    refine ⟨⟨hn, hntrim, hcolon.1.2, hv, hvtrim⟩, String.ofList w₁, String.ofList w₂,
      String.ofList w₃, String.ofList w₄, ?_, ?_, ?_, ?_, ?_⟩
    · rwa [Text.IsBlankText, String.toList_ofList]
    · rwa [Text.IsBlankText, String.toList_ofList]
    · rwa [Text.IsBlankText, String.toList_ofList]
    · rwa [Text.IsBlankText, String.toList_ofList]
    · apply String.toList_injective
      simp [htext]
  · rintro ⟨hplain, w₁, w₂, w₃, w₄, hw₁, hw₂, hw₃, hw₄, rfl⟩
    refine ⟨w₁.toList ++ h.name.toList ++ w₂.toList, w₃.toList ++ h.value.toList ++ w₄.toList,
      splitAtColon?_eq_some.mpr ⟨by simp, ?_⟩, ?_, ?_, hplain.name_ne, hplain.value_ne⟩
    · simp only [List.mem_append, not_or]
      exact ⟨⟨hw₁.colon_notMem, hplain.name_colon⟩, hw₂.colon_notMem⟩
    · exact Text.trimChars_padded hw₁ hw₂ hplain.name_trimmed
    · exact Text.trimChars_padded hw₃ hw₄ hplain.value_trimmed

/-! ### Attributes -/

/-- A string literal with its text and its place. -/
inductive LiteralAt : Tokens → String × Span → Prop
  | intro {tree : TokenTree} {text : String} (h : IsValue tree (.string text)) :
      LiteralAt [tree] (text, tree.span)

/-- The literals in an attribute. -/
inductive ListsLiterals (a : Attribute) (literals : List (String × Span)) : Prop
  | intro {d : Code.Delimiter} {trees : Tokens} {group : Span}
      (h : a.item.form = .list d trees group) (hliterals : Separated LiteralAt trees literals)

/-- A header is what a literal spells, at its place. -/
def PlacedHeader.SpelledBy (literal : String × Span) (h : PlacedHeader) : Prop :=
  HeaderLiteral.parse? literal.1 = some h.header ∧ h.span = literal.2

theorem meets_stringWithSpan_literal {region trees : Tokens} :
    Meets stringWithSpan region trees fun taken _ r => LiteralAt taken r := by
  refine .rest_bind ?_
  split
  · next text span after =>
    split
    · next value suffix h =>
      refine Code.Parser.meets_skip.bind fun taken _ _ _ _ htaken => .pure ?_
      obtain ⟨-, rfl⟩ := htaken
      exact .intro (.string span h)
    · exact .expected
  · exact .expected

theorem takes_stringWithSpan {front after : Tokens} {r : String × Span} (h : LiteralAt front r) :
    Takes stringWithSpan front after r := by
  obtain ⟨h⟩ := h
  refine .rest_bind ?_
  cases h with
  | string span h =>
    rw [List.singleton_append]
    dsimp only
    rw [h]
    exact Takes.bind_last (.skip rfl) (.pure _ _)

/-- A list of literals is taken where the trees are one. -/
theorem runAll_literals_eq_ok {trees : Tokens} {scope : Span} {literals : List (String × Span)} :
    Code.Parser.runAll (Code.Parser.commaList stringWithSpan) trees scope = .ok literals ↔
      Separated LiteralAt trees literals := by
  constructor
  · intro h
    obtain ⟨-, hliterals⟩ :=
      (Meets.commaList_separated fun _ => meets_stringWithSpan_literal).of_runAll h
    exact hliterals
  · intro h
    refine (Code.Parser.takes_commaList (fun front r after hr _ => ⟨?_, ?_⟩) h).runAll scope
    · obtain ⟨hr⟩ := hr
      exact List.cons_ne_nil _ _
    · exact takes_stringWithSpan hr

theorem headersOfLiterals_eq_ok {anchor : Anchor} {literals : List (String × Span)}
    {headers : List PlacedHeader} : headersOfLiterals anchor literals = .ok headers ↔
      List.Forall₂ PlacedHeader.SpelledBy literals headers := by
  induction literals generalizing headers with
  | nil => simp [headersOfLiterals, eq_comm]
  | cons r rest ih =>
    obtain ⟨text, span⟩ := r
    rw [headersOfLiterals, List.forall₂_cons_left_iff]
    cases hparse : HeaderLiteral.parse? text with
    | none => simp [PlacedHeader.SpelledBy, hparse]
    | some header =>
      dsimp only
      constructor
      · intro h
        cases hrest : headersOfLiterals anchor rest with
        | error d =>
          rw [hrest] at h
          cases h
        | ok own =>
          rw [hrest] at h
          obtain rfl := Except.ok.inj h
          exact ⟨_, own, ⟨hparse, rfl⟩, ih.mp hrest, rfl⟩
      · rintro ⟨⟨header', span'⟩, own, ⟨hheader, hspan⟩, hown, rfl⟩
        obtain rfl : header = header' := Option.some.inj (hparse.symm.trans hheader)
        obtain rfl : span' = span := hspan
        rw [ih.mpr hown]

/-- The literals of an attribute are what is read in it. -/
theorem ListsLiterals.unique {a : Attribute} {literals literals' : List (String × Span)}
    (h : ListsLiterals a literals) (h' : ListsLiterals a literals') : literals = literals' := by
  obtain ⟨hform, hliterals⟩ := h
  obtain ⟨hform', hliterals'⟩ := h'
  obtain ⟨-, rfl, -⟩ := Code.MetaForm.list.inj (hform.symm.trans hform')
  have hrun : Code.Parser.runAll (Code.Parser.commaList stringWithSpan) _ Span.nowhere =
      .ok literals := runAll_literals_eq_ok.mpr hliterals
  exact Except.ok.inj (hrun.symm.trans (runAll_literals_eq_ok.mpr hliterals'))

/-- An attribute is accepted where it lists literals, one at least, and all of them are headers. -/
theorem headersOfAttribute_eq_ok {a : Attribute} {headers : List PlacedHeader} :
    headersOfAttribute a = .ok headers ↔ ∃ literals, ListsLiterals a literals ∧ literals ≠ [] ∧
      List.Forall₂ PlacedHeader.SpelledBy literals headers := by
  unfold headersOfAttribute
  constructor
  · intro h
    cases hform : a.item.form with
    | path =>
      rw [hform] at h
      cases h
    | nameValue value =>
      rw [hform] at h
      cases h
    | list d trees group =>
      rw [hform] at h
      dsimp only at h
      split at h
      · cases h
      · cases h
      · next literals hne hrun =>
        have hliterals := runAll_literals_eq_ok.mp hrun
        exact ⟨literals, .intro hform hliterals, hne, headersOfLiterals_eq_ok.mp h⟩
  · rintro ⟨literals, ⟨hform, hliterals⟩, hne, hheaders⟩
    rw [hform]
    dsimp only
    rw [runAll_literals_eq_ok.mpr hliterals]
    cases literals with
    | nil => exact absurd rfl hne
    | cons r rest => exact headersOfLiterals_eq_ok.mpr hheaders

theorem exists_headersOfAttribute {a : Attribute} {literals : List (String × Span)}
    (h : ListsLiterals a literals) : (∃ headers, headersOfAttribute a = .ok headers) ↔
      literals ≠ [] ∧ ∀ r ∈ literals, (HeaderLiteral.parse? r.1).isSome := by
  have hspelled : (∃ headers, List.Forall₂ PlacedHeader.SpelledBy literals headers) ↔
      ∀ r ∈ literals, (HeaderLiteral.parse? r.1).isSome := by
    rw [Outcome.exists_forall₂_iff]
    refine forall₂_congr fun r _ => ?_
    rw [Option.isSome_iff_exists]
    exact ⟨fun ⟨header, hparse, _⟩ => ⟨header.header, hparse⟩,
      fun ⟨header, hparse⟩ => ⟨⟨header, r.2⟩, hparse, rfl⟩⟩
  rw [← hspelled]
  constructor
  · rintro ⟨headers, hread⟩
    obtain ⟨literals', h', hne, hheaders⟩ := headersOfAttribute_eq_ok.mp hread
    obtain rfl := h.unique h'
    exact ⟨hne, headers, hheaders⟩
  · rintro ⟨hne, headers, hheaders⟩
    exact ⟨headers, headersOfAttribute_eq_ok.mpr ⟨literals, h, hne, hheaders⟩⟩

/-! ### Methods -/

/-- The attributes that list headers. -/
def headersAttributes (attributes : List Attribute) : List Attribute :=
  attributes.filter fun a => markerOf a == some .headers

/-- The literals of the attributes of a method are its headers, one by one. -/
theorem ListsHeaders.exists_literals {attributes : List Attribute} {headers : List PlacedHeader}
    (h : ListsHeaders attributes headers) : ∃ groups,
      List.Forall₂ ListsLiterals (headersAttributes attributes) groups ∧ [] ∉ groups ∧
        List.Forall₂ PlacedHeader.SpelledBy groups.flatten headers := by
  obtain ⟨read, hread, rfl⟩ := h
  change List.Forall₂ _ (headersAttributes attributes) read at hread
  generalize headersAttributes attributes = listed at hread ⊢
  induction hread with
  | nil => exact ⟨[], .nil, List.not_mem_nil, .nil⟩
  | cons hfirst _ ih =>
    obtain ⟨groups, hgroups, hne, hheaders⟩ := ih
    obtain ⟨literals, hliterals, hfirst, hspelled⟩ := headersOfAttribute_eq_ok.mp hfirst
    refine ⟨literals :: groups, .cons hliterals hgroups, ?_, ?_⟩
    · exact List.not_mem_cons_of_ne_of_not_mem hfirst.symm hne
    · rw [List.flatten_cons, List.flatten_cons]
      exact List.rel_append hspelled hheaders

/-- A text is a header exactly where it is written as one. An attribute is accepted exactly where it
lists literals, one at least, that are all headers, and gives one header for each, in their order.
The headers of a method are those of all literals in its attributes, one for each, in the order in
which they are declared. -/
theorem header_literals_kept :
    (∀ text h, HeaderLiteral.parse? text = some h ↔ h.IsPlain ∧ h.WrittenAs text) ∧
    (∀ a headers, headersOfAttribute a = .ok headers ↔ ∃ literals, ListsLiterals a literals ∧
      literals ≠ [] ∧ List.Forall₂ PlacedHeader.SpelledBy literals headers) ∧
    (∀ a literals, ListsLiterals a literals →
      ((∃ headers, headersOfAttribute a = .ok headers) ↔
        literals ≠ [] ∧ ∀ r ∈ literals, (HeaderLiteral.parse? r.1).isSome)) ∧
    ∀ method d, analyzeMethod method = .ok d → ∃ groups,
      List.Forall₂ ListsLiterals (headersAttributes method.attributes) groups ∧ [] ∉ groups ∧
        List.Forall₂ PlacedHeader.SpelledBy groups.flatten d.headers := by
  refine ⟨fun text h => HeaderLiteral.parse?_eq_some, fun a headers => headersOfAttribute_eq_ok,
    fun a literals h => exists_headersOfAttribute h, fun method d h => ?_⟩
  obtain ⟨a⟩ := analyzeMethod_eq_ok.mp h
  exact a.listsHeaders.exists_literals

/-- A method with two headers of one name, in two attributes. -/
def announceTwice : Method :=
  { announce with attributes := announce.attributes ++ [headerAttribute "\"X-Kind : a: b\""] }

theorem header_literals_kept_twice :
    (∃ headers, headersOfAttribute (headerAttribute "\"X-Kind : a: b\"") = .ok headers) ∧
      ∃ groups, List.Forall₂ ListsLiterals (headersAttributes announceTwice.attributes) groups ∧
        [] ∉ groups ∧ List.Forall₂ PlacedHeader.SpelledBy groups.flatten
          [⟨⟨"X-Kind", "tags"⟩, .nowhere⟩, ⟨⟨"X-Kind", "a: b"⟩, .nowhere⟩] := by
  have hvalue : Code.stringValue? "\"X-Kind : a: b\"".toList =
      some ("X-Kind : a: b".toList, []) := by decide
  have hlists : ListsLiterals (headerAttribute "\"X-Kind : a: b\"")
      [("X-Kind : a: b", .nowhere)] :=
    .intro rfl (.last (.intro (.string .nowhere hvalue)))
  have hmethod : analyzeMethod announceTwice = .ok { announced with
      headers := [⟨⟨"X-Kind", "tags"⟩, .nowhere⟩, ⟨⟨"X-Kind", "a: b"⟩, .nowhere⟩] } := by rfl
  obtain ⟨-, -, haccepts, hkept⟩ := header_literals_kept
  refine ⟨(haccepts _ _ hlists).mpr ⟨List.cons_ne_nil _ _, ?_⟩, hkept _ _ hmethod⟩
  exact List.forall_mem_singleton.mpr (by decide)

end RestClient
