import RestClient.Proofs.Client.Lookups
import RestClient.Proofs.Client.FreshNames
import RestClient.Proofs.Interface.Suffixes
import RestClient.Proofs.Text.SnakeCase

/-!
# Names of fields

The field for a converter is named for the type: its words in snake case, the kind behind them, and
letters behind these where the name is taken. What is put behind the words never matters. So a name
is an identifier exactly if the words begin like one, or with an ASCII digit, which gets a letter in
front; and go on like one. Letters and numbers that no identifier can have come from literals among
the arguments of a type, and those that none can begin with from behind underscores.

## Main definitions

- `Code.TypeExpr.IsNameable` — the types that a field can be named for

## Main results

- `isIdentifier_newName` — which types give names of fields
- `ConverterPlan.exists_build_iff` — which methods have a plan
- `field_names_legal_iff` — when a client is generated with legal names
-/

namespace RestClient

open Code (TypeExpr PlainCode isIdentifier)
open Text (isIdentStart isIdentContinue isAsciiDigit lowerLetters IsOfLetters SameLetter
  snakeCase_cases)

/-- A type that a field can be named for. Of its letters and numbers in lower case, the first can
begin an identifier or is an ASCII digit, and the others can go on with one. -/
def Code.TypeExpr.IsNameable (t : TypeExpr) : Prop :=
  match lowerLetters (typeKey t).text.toList with
  | [] => True
  | c :: rest =>
    (isIdentStart c = true ∨ isAsciiDigit c = true) ∧ ∀ d ∈ rest, isIdentContinue d = true

/-! ### The beginnings of names -/

theorem isOfLetters_isIdentContinue : IsOfLetters fun c => isIdentContinue c = true where
  underscore := by decide
  same := by
    rintro c letter (rfl | ⟨rfl, rfl⟩)
    · rfl
    · decide +kernel

theorem isOfLetters_startsName :
    IsOfLetters fun c => isIdentStart c = true ∨ isAsciiDigit c = true where
  underscore := by decide
  same := by
    rintro c letter (rfl | ⟨rfl, rfl⟩)
    · rfl
    · decide +kernel

theorem isIdentContinue_of_isAsciiDigit {c : Char} (h : isAsciiDigit c = true) :
    isIdentContinue c = true := by
  have hle : c ≤ '9' := by
    rw [isAsciiDigit, Bool.and_eq_true] at h
    simpa using h.2
  have hascii : c.toNat < 0x80 := Nat.lt_of_le_of_lt hle (by decide)
  rw [isIdentContinue, if_pos hascii, h, Bool.or_true, Bool.true_or]

theorem typeStem_ne_empty (t : TypeExpr) : typeStem t ≠ "" := by
  unfold typeStem
  split
  · decide
  · split <;> simp [← String.toList_eq_nil_iff]

theorem isIdentifier_ofList_cons {c : Char} {cs : List Char} :
    isIdentifier (String.ofList (c :: cs)) = true ↔
      isIdentStart c = true ∧ ∀ d ∈ cs, isIdentContinue d = true := by
  rw [isIdentifier, String.toList_ofList, Bool.and_eq_true, List.all_eq_true]

/-- The words of a type begin a name exactly if the type is nameable. -/
theorem isIdentifier_typeStem {t : TypeExpr} :
    isIdentifier (typeStem t) = true ↔ t.IsNameable := by
  unfold typeStem TypeExpr.IsNameable
  rcases snakeCase_cases (typeKey t).text.toList with
    ⟨hletters, hsnake⟩ | ⟨letter, letters, c, rest, hletters, hsnake, hc, hrest⟩
  · rw [hletters, hsnake]
    exact iff_of_true (by decide) trivial
  · have hdigit : ('0' ≤ c && c ≤ '9') = isAsciiDigit c := rfl
    rw [hletters, hsnake]
    dsimp only
    rw [← isOfLetters_startsName.same hc, ← hrest _ isOfLetters_isIdentContinue, hdigit]
    cases hd : isAsciiDigit c with
    | true =>
      have hstart : isIdentStart 't' = true := by decide
      rw [if_pos rfl, isIdentifier_ofList_cons, List.forall_mem_cons]
      simp [hstart, isIdentContinue_of_isAsciiDigit hd]
    | false =>
      rw [if_neg Bool.false_ne_true, isIdentifier_ofList_cons]
      simp

/-! ### Whole names -/

theorem forall_isIdentContinue_kind (kind : ConverterKind) :
    ∀ c ∈ ("_" ++ kind.stem ++ "_converter").toList, isIdentContinue c = true := by
  rw [← List.all_eq_true]
  cases kind <;> decide

/-- A preferred name is an identifier exactly if the type is nameable. -/
theorem isIdentifier_preferredField {u : ConverterUse} :
    isIdentifier (preferredField u) = true ↔ u.type.IsNameable := by
  have hparts : preferredField u = typeStem u.type ++ ("_" ++ u.kind.stem ++ "_converter") := by
    simp only [preferredField, String.append_assoc]
  rw [hparts, isIdentifier_append_iff (typeStem_ne_empty u.type),
    and_iff_left (forall_isIdentContinue_kind u.kind), isIdentifier_typeStem]

theorem forall_isIdentContinue_word {n : Nat} {w : List Char} (h : w ∈ words n) :
    ∀ c ∈ ("_" ++ String.ofList w).toList, isIdentContinue c = true := by
  have hletters : ∀ i < 26, isIdentContinue (Char.ofNat (0x61 + i)) = true := by decide
  intro c hc
  rw [String.toList_append, List.mem_append] at hc
  rcases hc with hc | hc
  · obtain rfl : c = '_' := by simpa using hc
    exact isOfLetters_isIdentContinue.underscore
  · rw [String.toList_ofList] at hc
    obtain ⟨i, hi, rfl⟩ := exists_of_mem_words h hc
    exact hletters i hi

theorem preferredField_ne_empty (u : ConverterUse) : preferredField u ≠ "" := by
  simp [preferredField, ← String.toList_eq_nil_iff]

/-- Letters behind a name keep it an identifier, and make none of what is none. -/
theorem isIdentifier_newName {plan : ConverterPlan} {u : ConverterUse} :
    isIdentifier (plan.newName u).1 = true ↔ u.type.IsNameable := by
  have hname : (plan.newName u).1 =
      (allocate (preferredField u) plan.supply.taken plan.supply.letters).1 := rfl
  rw [hname, ← isIdentifier_preferredField]
  obtain ⟨_, ⟨_, he⟩ | ⟨_, w, hw, he⟩⟩ :=
    allocate_free (preferredField u) plan.supply.taken plan.supply.letters
  · rw [he]
  · rw [he, decorated, String.append_assoc,
      isIdentifier_append_iff (preferredField_ne_empty u),
      and_iff_left (forall_isIdentContinue_word hw)]

/-- No reserved word is the name of a field: none is so long. -/
theorem notMem_keywords_of_comesFrom {u : ConverterUse} {name : String}
    (h : NameSupply.ComesFrom (preferredField u) name) : name ∉ Code.Parser.keywords := by
  have hshort : ∀ word ∈ Code.Parser.keywords, word.toList.length < 10 := by decide
  have hpreferred : 10 ≤ (preferredField u).toList.length := by
    rw [preferredField, String.toList_append, List.length_append]
    exact Nat.le_add_left _ _
  have hlong : 10 ≤ name.toList.length := by
    rcases h with rfl | ⟨w, rfl⟩
    · exact hpreferred
    · rw [toList_decorated, List.length_append]
      exact Nat.le_add_right_of_le hpreferred
  exact fun hmem => Nat.not_lt.mpr hlong (hshort _ hmem)

/-! ### Plans -/

namespace ConverterPlan

/-- The fields of a plan have names that fields can have, and types that give such names. -/
def IsNamed (plan : ConverterPlan) : Prop :=
  ∀ f ∈ plan.fields, isIdentifier f.name = true ∧ f.name ∉ Code.Parser.keywords ∧
    f.use.type.IsNameable

theorem ends_add {plan : ConverterPlan} (hplan : plan.IsNamed) (u : ConverterUse) :
    Outcome.Ends (fun _ => ¬ u.type.IsNameable) IsNamed (plan.add u) := by
  cases h : plan.add u with
  | error name =>
    obtain ⟨_, rfl, hname⟩ := add_eq_error.mp h
    intro hnameable
    rw [isIdentifier_newName.mpr hnameable] at hname
    cases hname
  | ok plan' =>
    rcases add_eq_ok.mp h with ⟨_, rfl⟩ | ⟨_, hname, rfl⟩
    · exact hplan
    · intro f hf
      rcases List.mem_append.mp hf with hf | hf
      · exact hplan f hf
      · obtain rfl := List.mem_singleton.mp hf
        exact ⟨hname,
          notMem_keywords_of_comesFrom (NameSupply.allocate_spec _ plan.supply).2,
          isIdentifier_newName.mp hname⟩

theorem ends_build (letters : Letters) (methods : List MethodDescriptor) :
    Outcome.Ends (fun _ => ∃ u ∈ methods.flatMap needs, ¬ u.type.IsNameable) IsNamed
      (build letters methods) :=
  Outcome.Ends.foldlM (by simp [IsNamed, empty]) fun u hu plan hplan =>
    (ends_add hplan u).imp fun _ hnot => ⟨u, hu, hnot⟩

theorem isNamed_of_build {letters : Letters} {methods : List MethodDescriptor}
    {plan : ConverterPlan} (h : build letters methods = .ok plan) : plan.IsNamed := by
  have hends := ends_build letters methods
  rw [h] at hends
  exact hends

/-- Methods have a plan exactly if all types that they convert are nameable. -/
theorem exists_build_iff {letters : Letters} {methods : List MethodDescriptor} :
    (∃ plan, build letters methods = .ok plan) ↔
      ∀ u ∈ methods.flatMap needs, u.type.IsNameable := by
  constructor
  · rintro ⟨plan, h⟩ u hu
    obtain ⟨f, hf⟩ := Option.isSome_iff_exists.mp (covers_of_build h hu)
    have hserves : f.serves u = true :=
      List.find?_some (p := fun f : ConverterField => f.serves u) hf
    -- a field for the same words has been named
    have hnamed := (isNamed_of_build h f (List.mem_of_find?_eq_some hf)).2.2
    rwa [TypeExpr.IsNameable, (ConverterField.serves_iff.mp hserves).2] at hnamed
  · intro hall
    have hends := ends_build letters methods
    cases h : build letters methods with
    | ok plan => exact ⟨plan, rfl⟩
    | error name =>
      rw [h] at hends
      obtain ⟨u, hu, hnot⟩ := hends
      exact absurd (hall u hu) hnot

end ConverterPlan

/-! ### Clients -/

/-- All letters and numbers of ASCII make names. -/
theorem Code.TypeExpr.isNameable_of_ascii {t : TypeExpr}
    (h : ∀ c ∈ (typeKey t).text.toList, c.toNat < 0x80) : t.IsNameable := by
  have hascii : ∀ n : Fin 0x80, Text.isAlphanumeric (Char.ofNat n) = true →
      (Text.lowerChar (Char.ofNat n)).all (fun d =>
        (isIdentStart d || isAsciiDigit d) && isIdentContinue d) = true := by
    decide +kernel
  have hletters : ∀ d ∈ lowerLetters (typeKey t).text.toList,
      (isIdentStart d = true ∨ isAsciiDigit d = true) ∧ isIdentContinue d = true := by
    intro d hd
    obtain ⟨c, hc, hd⟩ := List.mem_flatMap.mp hd
    obtain ⟨hc, halpha⟩ := List.mem_filter.mp hc
    rw [← Char.ofNat_toNat c] at halpha hd
    have hlower := List.all_eq_true.mp (hascii ⟨c.toNat, h c hc⟩ halpha) d hd
    simpa only [Bool.and_eq_true, Bool.or_eq_true] using hlower
  unfold IsNameable
  split
  · trivial
  · next c rest hcons =>
    rw [hcons, List.forall_mem_cons] at hletters
    exact ⟨hletters.1.1, fun d hd => (hletters.2 d hd).2⟩

theorem ClientPlan.exists_illegalName_iff {d : InterfaceDescriptor} :
    (∃ name, ClientPlan.ofInterface d = .error (.illegalName name)) ↔
      d.component = .standalone ∧ ¬ ∃ plan, ConverterPlan.build .initial d.methods = .ok plan := by
  unfold ofInterface
  split
  · next hother => simp [hother]
  · next hstandalone =>
    rw [and_iff_right (by simpa using hstandalone)]
    cases ConverterPlan.build .initial d.methods with
    | error name => simp
    | ok plan =>
      dsimp only
      split <;> simp

/-- The converters of an interface get fields exactly if all types that are converted are nameable,
and then every name is an identifier that is not reserved. Because of a name no client is generated
exactly if one of these types is not nameable. Types that are written in ASCII are. -/
theorem field_names_legal_iff (letters : Letters) (d : InterfaceDescriptor) :
    ((∃ plan, ConverterPlan.build letters d.methods = .ok plan) ↔
      ∀ u ∈ d.methods.flatMap needs, u.type.IsNameable) ∧
    (∀ plan, ConverterPlan.build letters d.methods = .ok plan →
      ∀ f ∈ plan.fields, isIdentifier f.name = true ∧ f.name ∉ Code.Parser.keywords) ∧
    ((∃ name, ClientPlan.ofInterface d = .error (.illegalName name)) ↔
      d.component = .standalone ∧ ∃ u ∈ d.methods.flatMap needs, ¬ u.type.IsNameable) ∧
    ∀ u ∈ d.methods.flatMap needs,
      (∀ c ∈ (typeKey u.type).text.toList, c.toNat < 0x80) → u.type.IsNameable := by
  refine ⟨ConverterPlan.exists_build_iff, ?_, ?_, fun u _ => TypeExpr.isNameable_of_ascii⟩
  · intro plan hplan f hf
    obtain ⟨hname, hkeyword, _⟩ := ConverterPlan.isNamed_of_build hplan f hf
    exact ⟨hname, hkeyword⟩
  · rw [ClientPlan.exists_illegalName_iff, ConverterPlan.exists_build_iff]
    simp only [not_forall, exists_prop]

/-! ### Numbers that no name can have -/

/-- A trait with a method that gets a value of a type. -/
def valueTrait (result : TypeExpr) : Code.TraitDecl where
  attributes := []
  visibility := []
  lead := []
  name := "Api"
  nameSpan := .nowhere
  generics := []
  hasWhere := false
  colon := []
  supertraits := []
  whereClause := []
  items := [.method
    { attributes := [⟨⟨⟨false, none, [⟨"get", none, false⟩]⟩,
        .list .parenthesis [.literal "\"a\"" .nowhere] .nowhere, []⟩, []⟩]
      signature :=
        { lead := [], asyncSpan := some .nowhere, name := "value", nameSpan := .nowhere
          generics := [], inputs := [(.receiver ⟨[], true, false, false, []⟩, [])], variadic := []
          parentheses := .nowhere, arrow := [], output := some (appliedType "Result" result)
          whereClause := [] }
      body := none
      ending := [] }]
  braces := .nowhere

/-- A type with a text as its argument. -/
def circledType : TypeExpr :=
  .path [.ident "Foo" .nowhere, .punct '<' false .nowhere, .literal "\"①\"" .nowhere,
    .punct '>' false .nowhere] none ["Foo"] []

/-- A circled number in a literal goes into a name, and a digit beyond ASCII behind an underscore
begins one. -/
theorem number_in_type_is_no_name :
    (∃ d, InterfaceDescriptor.ofTrait plainConfig (valueTrait circledType) = .ok d ∧
      ClientPlan.ofInterface d = .error (.illegalName "foo_①_response_body_converter")) ∧
    ∃ d, InterfaceDescriptor.ofTrait plainConfig (valueTrait (plainType "_٣")) = .ok d ∧
      ClientPlan.ofInterface d = .error (.illegalName "٣_response_body_converter") := by
  refine ⟨⟨_, rfl, (Outcome.map_eq_error (f := fun _ => ())).mp ?_⟩,
    ⟨_, rfl, (Outcome.map_eq_error (f := fun _ => ())).mp ?_⟩⟩
  · decide +kernel
  · decide +kernel

end RestClient
