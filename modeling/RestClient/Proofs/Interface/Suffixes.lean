import RestClient.Proofs.Code.SingleWord
import RestClient.Proofs.Interface.Traits

/-!
# Names that a suffix makes

A suffix is accepted if it goes on with an identifier that begins with a letter, as code is read.
What is read leaves gaps out, and the names are put together from the text itself: a gap at the end
of a suffix is accepted, and then neither name is an identifier. Without one both are, and the only
word that can be reserved is the shorter one.

## Main definitions

- `IsTypeName` — the names that a type can have
- `suffixGap` — what stands behind the characters of an identifier in a suffix

## Main results

- `suffixSetting_eq_ok` — the suffixes that are accepted
- `ClientConfig.suffixGap_of_parse` — every configuration has such a suffix, given or not
- `accepted_suffix_names` — the names that they make
-/

namespace RestClient

open Code (Expr Parser Span TraitDecl isIdentifier skipGaps)
open Text (isIdentStart isIdentContinue)

/-- A name that a type can have: an identifier that is not reserved. -/
def IsTypeName (name : String) : Prop :=
  isIdentifier name = true ∧ name ∉ Parser.keywords

/-- What stands behind the characters of an identifier at the start of a suffix. -/
def suffixGap (suffix : String) : List Char :=
  suffix.toList.dropWhile isIdentContinue

/-! ### Names and what is put behind them -/

theorem names_of_ofTrait {config : ClientConfig} {t : TraitDecl} {d : InterfaceDescriptor}
    (h : InterfaceDescriptor.ofTrait config t = .ok d) :
    d.implName = implementationName config t ∧ d.builderName = d.implName ++ "Builder" := by
  unfold InterfaceDescriptor.ofTrait at h
  dsimp only at h
  split at h
  · cases h
  · split at h
    · obtain rfl := Except.ok.inj h
      exact ⟨rfl, rfl⟩
    · cases h

theorem isIdentifier_append_iff {name text : String} (h : name ≠ "") :
    isIdentifier (name ++ text) = true ↔
      isIdentifier name = true ∧ ∀ c ∈ text.toList, isIdentContinue c = true := by
  unfold isIdentifier
  rw [String.toList_append]
  cases hname : name.toList with
  | nil => exact absurd (String.toList_eq_nil_iff.mp hname) h
  | cons c cs =>
    simp only [List.cons_append, List.all_append, Bool.and_eq_true, List.all_eq_true, and_assoc]

theorem isIdentifier_append {name text : String} (h : isIdentifier name = true) :
    isIdentifier (name ++ text) = true ↔ ∀ c ∈ text.toList, isIdentContinue c = true := by
  have hne : name ≠ "" := by
    rintro rfl
    cases h
  rw [isIdentifier_append_iff hne, and_iff_right h]

theorem suffixGap_eq_nil {suffix : String} :
    suffixGap suffix = [] ↔ ∀ c ∈ suffix.toList, isIdentContinue c = true :=
  List.dropWhile_eq_nil_iff

theorem isIdentifier_append_suffix {name suffix : String} (h : isIdentifier name = true) :
    isIdentifier (name ++ suffix) = true ↔ suffixGap suffix = [] :=
  (isIdentifier_append h).trans suffixGap_eq_nil.symm

/-- No reserved word is the name of a builder. -/
theorem builder_notMem_keywords (name : String) : name ++ "Builder" ∉ Parser.keywords := by
  have hall : ∀ word ∈ Parser.keywords, ¬ "Builder".toList <:+ word.toList := by decide
  intro hmem
  refine hall _ hmem ?_
  rw [String.toList_append]
  exact List.suffix_append _ _

/-! ### Accepted suffixes -/

theorem stringSetting_eq_ok (key : String) {text : String} {value : Expr} :
    stringSetting key value = .ok text ↔ value.form = .string text := by
  unfold stringSetting
  split
  · next form hform => simp [hform]
  · next hnone =>
    constructor
    · intro h
      cases h
    · intro hform
      exact absurd hform (hnone text)

/-- A suffix is a string with characters of an identifier and then nothing but gaps. -/
theorem suffixSetting_eq_ok {value : Expr} {suffix : String} :
    suffixSetting value = .ok suffix ↔
      value.form = .string suffix ∧ suffix ≠ "" ∧ skipGaps (suffixGap suffix) = [] := by
  rw [suffixSetting, ← stringSetting_eq_ok "suffix", suffixGap,
    ← Code.isIdentifierText_iff]
  cases stringSetting "suffix" value with
  | error fault => simp
  | ok text =>
    dsimp only
    rw [Except.ok.injEq]
    split
    · next hrefused =>
      constructor
      · intro h
        cases h
      · rintro ⟨rfl, hne, hread⟩
        simp [hne, hread] at hrefused
    · next haccepted =>
      rw [Except.ok.injEq]
      refine ⟨?_, And.left⟩
      rintro rfl
      simpa using haccepted

theorem Settings.add_suffix {s s' : Settings} {entry : Code.MetaItem}
    (h : s.add entry = .ok s') : s'.suffix = s.suffix ∨
      ∃ value suffix, suffixSetting value = .ok suffix ∧ s'.suffix = some suffix := by
  unfold Settings.add at h
  split at h
  · next value hvalue =>
    split at h
    · obtain ⟨_, _, h⟩ := Outcome.bind_eq_ok.mp h
      obtain rfl := Except.ok.inj h
      exact .inl rfl
    · obtain ⟨suffix, hsuffix, h⟩ := Outcome.bind_eq_ok.mp h
      obtain rfl := Except.ok.inj h
      exact .inr ⟨value, suffix, hsuffix, rfl⟩
    · obtain ⟨_, _, h⟩ := Outcome.bind_eq_ok.mp h
      obtain rfl := Except.ok.inj h
      exact .inl rfl
    · obtain ⟨_, _, h⟩ := Outcome.bind_eq_ok.mp h
      obtain rfl := Except.ok.inj h
      exact .inl rfl
    · obtain ⟨_, _, h⟩ := Outcome.bind_eq_ok.mp h
      obtain rfl := Except.ok.inj h
      exact .inl rfl
    · cases h
  · cases h

theorem Settings.suffix_of_finish {s : Settings} {config : ClientConfig}
    (h : s.finish = .ok config) : config.suffix = s.suffix.getD defaultSuffix := by
  unfold Settings.finish at h
  split at h
  · cases h
  · obtain rfl := Except.ok.inj h
    rfl

theorem ClientConfig.suffix_of_ofEntries {entries : List Code.MetaItem} {config : ClientConfig}
    (h : ClientConfig.ofEntries entries = .ok config) : config.suffix = defaultSuffix ∨
      ∃ value, suffixSetting value = .ok config.suffix := by
  obtain ⟨s, hs, hfinish⟩ := Outcome.bind_eq_ok.mp h
  -- whatever has been recorded as the suffix has been accepted
  have hwalk := Outcome.foldlM_related
    (R := fun _ (before after : Settings) =>
      (∀ t, before.suffix = some t → ∃ value, suffixSetting value = .ok t) →
        ∀ t, after.suffix = some t → ∃ value, suffixSetting value = .ok t)
    (fun _ hbefore => hbefore)
    (fun entry l before between after hadd hrest hbefore => hrest fun t ht => by
      rcases Settings.add_suffix hadd with hsame | ⟨value, suffix, hsuffix, hnew⟩
      · exact hbefore t (hsame ▸ ht)
      · rw [hnew] at ht
        obtain rfl := Option.some.inj ht
        exact ⟨value, hsuffix⟩) hs
  have hrecorded := hwalk fun t ht => nomatch ht
  rw [Settings.suffix_of_finish hfinish]
  cases ht : s.suffix with
  | none => exact .inl rfl
  | some t => exact .inr (hrecorded t ht)

/-- The suffix that stands where none is given would be accepted, as the others have been. -/
theorem ClientConfig.suffixGap_of_parse {args : Code.Tokens} {config : ClientConfig}
    (h : ClientConfig.parse args = .ok config) :
    config.suffix ≠ "" ∧ skipGaps (suffixGap config.suffix) = [] := by
  unfold ClientConfig.parse at h
  dsimp only at h
  split at h
  · cases h
  · split at h
    · cases h
    · next config' hentries =>
      have hsame : config' = config := by
        split at h
        · cases h
        · exact Except.ok.inj h
      rw [← hsame]
      rcases ClientConfig.suffix_of_ofEntries hentries with hsuffix | ⟨value, hvalue⟩
      · rw [hsuffix]
        have hgap : suffixGap defaultSuffix = [] := by decide
        rw [hgap]
        exact ⟨by decide, by decide +kernel⟩
      · exact (suffixSetting_eq_ok.mp hvalue).2

/-! ### The names -/

/-- The names that an accepted suffix makes of the name of a trait are names of types exactly if
nothing stands behind its characters of an identifier, and the shorter one is not reserved. -/
theorem accepted_suffix_names {value : Expr} {suffix name : String}
    (h : suffixSetting value = .ok suffix) (hname : isIdentifier name = true) :
    skipGaps (suffixGap suffix) = [] ∧
      (IsTypeName (name ++ suffix) ↔
        suffixGap suffix = [] ∧ name ++ suffix ∉ Parser.keywords) ∧
      (IsTypeName (name ++ suffix ++ "Builder") ↔ suffixGap suffix = []) ∧
      ∀ (config : ClientConfig) (t : TraitDecl), config.suffix = suffix →
        Code.plainName t.name = name →
          (suffixGap suffix ≠ [] →
            InterfaceDescriptor.ofTrait config t = .error (.illegalName (name ++ suffix))) ∧
          (suffixGap suffix = [] →
            (∀ illegal, InterfaceDescriptor.ofTrait config t ≠ .error (.illegalName illegal)) ∧
            ∀ d, InterfaceDescriptor.ofTrait config t = .ok d →
              d.implName = name ++ suffix ∧ d.builderName = name ++ suffix ++ "Builder") := by
  have hshort : isIdentifier (name ++ suffix) = true ↔ suffixGap suffix = [] :=
    isIdentifier_append_suffix hname
  have hlong : isIdentifier (name ++ suffix ++ "Builder") = true ↔ suffixGap suffix = [] := by
    rw [String.append_assoc, isIdentifier_append hname, suffixGap_eq_nil]
    have hbuilder : ∀ c ∈ "Builder".toList, isIdentContinue c = true :=
      List.all_eq_true.mp (by decide)
    simp only [String.toList_append, List.mem_append]
    exact ⟨fun hall c hc => hall c (.inl hc),
      fun hall c hc => hc.elim (hall c) (hbuilder c)⟩
  refine ⟨(suffixSetting_eq_ok.mp h).2.2, and_congr_left fun _ => hshort,
    (and_iff_left (builder_notMem_keywords _)).trans hlong, ?_⟩
  intro config t hconfig ht
  have hmade : implementationName config t = name ++ suffix := by
    rw [implementationName, hconfig, ht]
  constructor
  · intro hgap
    have hillegal : isIdentifier (implementationName config t) = false := by
      rw [hmade]
      exact Bool.eq_false_iff.mpr fun hlegal => hgap (hshort.mp hlegal)
    rw [ofTrait_of_illegal hillegal, hmade]
  · intro hgap
    have hlegal : isIdentifier (implementationName config t) = true := by
      rw [hmade]
      exact hshort.mpr hgap
    constructor
    · intro illegal herror
      rcases ofTrait_eq_error herror with ⟨hillegal, -⟩ | ⟨-, hrejected⟩
      · rw [hlegal] at hillegal
        cases hillegal
      · cases hrejected
    · intro d hd
      obtain ⟨himpl, hbuilder⟩ := names_of_ofTrait hd
      rw [hbuilder, himpl, hmade]
      exact ⟨rfl, rfl⟩

theorem accepted_suffix_names_client :
    suffixSetting ⟨.string "Client_2", []⟩ = .ok "Client_2" ∧ isIdentifier "Api" = true ∧
      IsTypeName "ApiClient_2" ∧ IsTypeName "ApiClient_2Builder" := by
  have hsuffix : suffixSetting ⟨.string "Client_2", []⟩ = .ok "Client_2" := by decide +kernel
  have hname : isIdentifier "Api" = true := by decide
  obtain ⟨-, hshort, hlong, -⟩ := accepted_suffix_names hsuffix hname
  have hgap : suffixGap "Client_2" = [] := by decide
  exact ⟨hsuffix, hname, hshort.mpr ⟨hgap, by decide⟩, hlong.mpr hgap⟩

/-- A blank at the end of a suffix is accepted and goes into the names, and a suffix can complete a
reserved word. -/
theorem accepted_suffix_is_no_name :
    (suffixSetting ⟨.string "Impl ", []⟩ = .ok "Impl " ∧ IsTypeName "A" ∧
      ¬ IsTypeName ("A" ++ "Impl ") ∧ ¬ IsTypeName ("A" ++ "Impl " ++ "Builder")) ∧
    (suffixSetting ⟨.string "s", []⟩ = .ok "s" ∧ IsTypeName "a" ∧ ¬ IsTypeName ("a" ++ "s")) := by
  refine ⟨⟨by decide +kernel, ⟨by decide, by decide⟩, fun h => ?_, fun h => ?_⟩,
    ⟨by decide +kernel, ⟨by decide, by decide⟩, fun h => ?_⟩⟩
  · exact absurd h.1 (by decide)
  · exact absurd h.1 (by decide)
  · exact h.2 (by decide)

end RestClient
