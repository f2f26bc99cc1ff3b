import RestClient.Proofs.Interface.Acceptance
import RestClient.Proofs.Interface.Shapes
import RestClient.Proofs.Interface.TypeEquality

/-!
# Classification of values

A role of maps takes maps of strings and nothing else. The other roles take every type, with one
exception: where the shape of an option or of a sequence is asked for, its type argument has to be
written. A type without it has no shape, and is complained about as if a map were asked for.

## Main definitions

- `TypeExpr.IsStringMap` — the types that roles of maps take
- `TypeExpr.IsOptionUnder`, `TypeExpr.IsSequenceUnder` — the types that contribute otherwise than
  once
- `TypeExpr.LacksArgument` — options and lists without their type argument
- `Diagnostic.AsksForMap` — the wording of the complaint about maps

## Main results

- `classify_eq_none` — the types without a shape
- `classify_eq_some` — which shape a type has
- `values_classified_exactly` — shapes, and the complaint about maps
-/

namespace RestClient

open Code (TypeExpr TypedInput Attribute Span Tokens)
open Code.TypeExpr (TypeClass)
open Outcome (Ends)

namespace Code.TypeExpr

/-- A map with strings as keys and something as values. -/
def IsStringMap (t : TypeExpr) : Prop :=
  t.belongsTo .map = true ∧ ∃ key value rest, t.arguments = key :: value :: rest ∧
    key.belongsTo .str = true

/-- An option under a role whose values may be missing. -/
def IsOptionUnder (kind : RoleKind) (t : TypeExpr) : Prop :=
  kind ∈ [RoleKind.query, .field, .header, .part] ∧ t.isKnown "Option" = true

/-- A sequence, unless of bytes, under a role that takes elements. -/
def IsSequenceUnder (kind : RoleKind) (t : TypeExpr) : Prop :=
  kind ∈ [RoleKind.query, .field] ∧ t.belongsTo .sequence = true ∧ t.belongsTo .bytes = false

/-- An option or a list under a role that asks for its type argument, without one. -/
def LacksArgument (kind : RoleKind) (t : TypeExpr) : Prop :=
  t.arguments = [] ∧ (t.IsOptionUnder kind ∨
    kind ∈ [RoleKind.query, .field] ∧ (t.isKnown "Vec" = true ∨ t.isKnown "VecDeque" = true))

variable {t : TypeExpr}

theorem argument?_zero_eq_none : t.argument? 0 = none ↔ t.arguments = [] := by
  rw [argument?, ← List.head?_eq_getElem?, List.head?_eq_none_iff]

theorem isKnown_option_iff : t.isKnown "Option" = true ↔
    t.canonical? = some "std::option::Option" := by
  rw [isKnown, beq_iff_eq, show canonicalName "Option" = "std::option::Option" by decide]

theorem isKnown_list_iff : (t.isKnown "Vec" = true ∨ t.isKnown "VecDeque" = true) ↔
    ∃ name ∈ sequenceNames, t.canonical? = some name := by
  rw [isKnown, isKnown, beq_iff_eq, beq_iff_eq,
    show canonicalName "Vec" = "std::vec::Vec" by decide,
    show canonicalName "VecDeque" = "std::collections::VecDeque" by decide]
  simp [sequenceNames]

/-- A sequence is a slice or an array, which have an element, or a list, which is a path. -/
theorem isSequence_cases (h : t.isSequence = true) :
    ((∃ element, t.element? = some element) ∧
      (t.canonical? = some "[]" ∨ t.canonical? = some "[;]")) ∨
    (t.element? = t.argument? 0 ∧ ∃ name ∈ sequenceNames, t.canonical? = some name) := by
  have hnamed : t.isSequence = true := h
  unfold isSequence at h
  cases ht : t.strip with
  | slice tokens element =>
    exact .inl ⟨⟨element, by rw [element?, ht]⟩, .inl (by rw [canonical?, ht])⟩
  | array tokens element =>
    exact .inl ⟨⟨element, by rw [element?, ht]⟩, .inr (by rw [canonical?, ht])⟩
  | path tokens self names arguments =>
    rw [ht] at h
    refine .inr ⟨by rw [element?, ht]; exact if_pos hnamed, ?_⟩
    cases hname : t.canonical? with
    | none =>
      rw [hname] at h
      cases h
    | some name =>
      rw [hname] at h
      exact ⟨name, List.contains_iff_mem.mp h, rfl⟩
  | tuple tokens elements =>
    rw [ht, canonical?, ht] at h
    cases elements with
    | nil =>
      have hunit : sequenceNames.contains "()" = true := h
      exact absurd hunit (by decide)
    | cons first rest => cases h
  | _ =>
    rw [ht, canonical?, ht] at h
    cases h

/-- An option is no sequence. -/
theorem not_isSequence_of_isKnown_option (h : t.isKnown "Option" = true) :
    t.isSequence = false := by
  rw [isKnown_option_iff] at h
  refine Bool.eq_false_iff.mpr fun hsequence => ?_
  rcases isSequence_cases hsequence with ⟨_, hslice | harray⟩ | ⟨_, name, hmem, hname⟩
  · exact absurd (Option.some.inj (h.symm.trans hslice)) (by decide)
  · exact absurd (Option.some.inj (h.symm.trans harray)) (by decide)
  · obtain rfl := Option.some.inj (h.symm.trans hname)
    exact absurd hmem (by decide)

/-- The sequences without an element are the lists without a type argument. -/
theorem element?_eq_none_iff (h : t.isSequence = true) : t.element? = none ↔
    t.arguments = [] ∧ (t.isKnown "Vec" = true ∨ t.isKnown "VecDeque" = true) := by
  rw [isKnown_list_iff]
  rcases isSequence_cases h with ⟨⟨element, helement⟩, hname⟩ | ⟨helement, hlist⟩
  · constructor
    · intro hnone
      rw [helement] at hnone
      cases hnone
    · rintro ⟨-, name, hmem, hlist⟩
      rcases hname with hslice | harray
      · obtain rfl := Option.some.inj (hslice.symm.trans hlist)
        exact absurd hmem (by decide)
      · obtain rfl := Option.some.inj (harray.symm.trans hlist)
        exact absurd hmem (by decide)
  · rw [helement, argument?_zero_eq_none]
    exact (and_iff_left hlist).symm

theorem isSequence_of_list (h : t.isKnown "Vec" = true ∨ t.isKnown "VecDeque" = true) :
    t.isSequence = true := by
  obtain ⟨name, hmem, hname⟩ := isKnown_list_iff.mp h
  unfold isSequence
  split
  · rfl
  · rfl
  · rw [hname]
    exact List.contains_iff_mem.mpr hmem

theorem not_bytes_of_element?_eq_none (hsequence : t.isSequence = true)
    (h : t.element? = none) : t.belongsTo .bytes = false := by
  obtain ⟨-, hlist⟩ := (element?_eq_none_iff hsequence).mp h
  obtain ⟨name, hmem, hname⟩ := isKnown_list_iff.mp hlist
  have hbytes : name ≠ "bytes::Bytes" := by
    rintro rfl
    exact absurd hmem (by decide)
  simp [belongsTo, isSequenceOf, h, hname, hbytes]

end Code.TypeExpr

theorem Code.TypeExpr.isOptionUnder_iff {t : TypeExpr} {kind : RoleKind} :
    t.IsOptionUnder kind ↔ (kind.mayBeOptional && t.isKnown "Option") = true := by
  rw [IsOptionUnder, Bool.and_eq_true]
  refine and_congr_left fun _ => ?_
  cases kind <;> decide

theorem Code.TypeExpr.isSequenceUnder_iff {t : TypeExpr} {kind : RoleKind} :
    t.IsSequenceUnder kind ↔
      (kind.mayBeRepeated && t.belongsTo .sequence && !t.belongsTo .bytes) = true := by
  rw [IsSequenceUnder, Bool.and_eq_true, Bool.and_eq_true, Bool.not_eq_true', and_assoc]
  refine and_congr_left fun _ => ?_
  cases kind <;> decide

theorem classifyMap_eq_none {t : TypeExpr} : classifyMap t = none ↔ ¬ t.IsStringMap := by
  unfold classifyMap TypeExpr.IsStringMap TypeExpr.argument?
  cases hmap : t.belongsTo .map with
  | false => simp
  | true =>
    match t.arguments with
    | [] => simp
    | [key] => simp
    | key :: value :: rest => cases hkey : key.belongsTo .str <;> simp [hkey]

theorem stripped_of_classifyMap {t v : TypeExpr} {shape : ValueShape}
    (h : classifyMap t = some (shape, v)) : ∃ inner : TypeExpr, v = inner.strip := by
  unfold classifyMap at h
  split at h
  · split at h
    · next key value _ _ =>
      split at h
      · exact ⟨value, (Prod.mk.inj (Option.some.inj h)).2.symm⟩
      · cases h
    · cases h
  · cases h

/-- The roles of maps ask for no other shape. -/
theorem not_under_of_isMap {t : TypeExpr} {kind : RoleKind} (h : kind.isMap = true) :
    ¬ t.IsOptionUnder kind ∧ ¬ t.IsSequenceUnder kind ∧ ¬ t.LacksArgument kind := by
  have hoption : kind ∉ [RoleKind.query, .field, .header, .part] := by
    revert h
    cases kind <;> decide
  have hsequence : kind ∉ [RoleKind.query, .field] := by
    revert h
    cases kind <;> decide
  refine ⟨fun h => hoption h.1, fun h => hsequence h.1, ?_⟩
  rintro ⟨-, h | h⟩
  · exact hoption h.1
  · exact hsequence h.1

section Classify

variable {t v : TypeExpr} {kind : RoleKind} {shape : ValueShape}

theorem classify_of_isMap (h : kind.isMap = true) : classify t kind = classifyMap t := by
  simp only [classify, classifyMap, h, if_true, TypeExpr.belongsTo_strip, TypeExpr.argument?_strip]

theorem classify_of_isOptionUnder (h : t.IsOptionUnder kind) :
    classify t kind = (t.argument? 0).map fun inner => (.optional, inner.strip) := by
  have hmap : kind.isMap ≠ true := fun hmap => (not_under_of_isMap hmap).1 h
  unfold classify
  dsimp only
  rw [if_neg hmap, TypeExpr.isKnown_strip, if_pos (TypeExpr.isOptionUnder_iff.mp h),
    TypeExpr.argument?_strip]

theorem classify_of_isSequenceUnder (h : t.IsSequenceUnder kind) :
    classify t kind = t.element?.map fun element => (.repeated, element.strip) := by
  have hmap : kind.isMap ≠ true := fun hmap => (not_under_of_isMap hmap).2.1 h
  have hoption : ¬ t.IsOptionUnder kind := fun hoption =>
    Bool.false_ne_true ((TypeExpr.not_isSequence_of_isKnown_option hoption.2).symm.trans h.2.1)
  rw [TypeExpr.isOptionUnder_iff] at hoption
  unfold classify
  dsimp only
  rw [if_neg hmap, TypeExpr.isKnown_strip, if_neg hoption, TypeExpr.belongsTo_strip,
    TypeExpr.belongsTo_strip, if_pos (TypeExpr.isSequenceUnder_iff.mp h), TypeExpr.element?_strip]

theorem classify_otherwise (hmap : kind.isMap ≠ true) (hoption : ¬ t.IsOptionUnder kind)
    (hsequence : ¬ t.IsSequenceUnder kind) : classify t kind = some (.single, t.strip) := by
  rw [TypeExpr.isOptionUnder_iff] at hoption
  rw [TypeExpr.isSequenceUnder_iff] at hsequence
  unfold classify
  dsimp only
  rw [if_neg hmap, TypeExpr.isKnown_strip, if_neg hoption, TypeExpr.belongsTo_strip,
    TypeExpr.belongsTo_strip, if_neg hsequence]

/-- A type has no shape where a role of maps gets something else, or where a type argument that the
role asks for is missing. -/
theorem classify_eq_none : classify t kind = none ↔
    (kind.isMap = true ∧ ¬ t.IsStringMap) ∨ t.LacksArgument kind := by
  by_cases hmap : kind.isMap = true
  · rw [classify_of_isMap hmap, classifyMap_eq_none, or_iff_left (not_under_of_isMap hmap).2.2,
      and_iff_right hmap]
  rw [or_iff_right fun h => hmap h.1]
  by_cases hoption : t.IsOptionUnder kind
  · rw [classify_of_isOptionUnder hoption, Option.map_eq_none_iff,
      TypeExpr.argument?_zero_eq_none]
    exact ⟨fun h => ⟨h, .inl hoption⟩, And.left⟩
  by_cases hsequence : t.IsSequenceUnder kind
  · rw [classify_of_isSequenceUnder hsequence, Option.map_eq_none_iff,
      TypeExpr.element?_eq_none_iff hsequence.2.1, TypeExpr.LacksArgument, or_iff_right hoption]
    exact and_congr_right fun _ => (and_iff_right hsequence.1).symm
  · rw [classify_otherwise hmap hoption hsequence]
    refine iff_of_false nofun ?_
    rintro ⟨harguments, h | ⟨hkind, hlist⟩⟩
    · exact hoption h
    · have hseq := TypeExpr.isSequence_of_list hlist
      have hnone := (TypeExpr.element?_eq_none_iff hseq).mpr ⟨harguments, hlist⟩
      exact hsequence ⟨hkind, hseq, TypeExpr.not_bytes_of_element?_eq_none hseq hnone⟩

/-- The role and the type decide on the shape, and the type of a single contribution is stripped. -/
theorem classify_eq_some (h : classify t kind = some (shape, v)) :
    (shape = .map ↔ kind.isMap = true) ∧ (shape = .optional ↔ t.IsOptionUnder kind) ∧
    (shape = .repeated ↔ t.IsSequenceUnder kind) ∧ ∃ inner : TypeExpr, v = inner.strip := by
  have hmap := classify_map_iff h
  refine ⟨hmap, ?_⟩
  by_cases hkind : kind.isMap = true
  · obtain rfl := hmap.mpr hkind
    obtain ⟨hoption, hsequence, -⟩ := not_under_of_isMap (t := t) hkind
    rw [classify_of_isMap hkind] at h
    exact ⟨iff_of_false nofun hoption, iff_of_false nofun hsequence, stripped_of_classifyMap h⟩
  by_cases hoption : t.IsOptionUnder kind
  · rw [classify_of_isOptionUnder hoption, Option.map_eq_some_iff] at h
    obtain ⟨inner, _, he⟩ := h
    obtain ⟨rfl, rfl⟩ := Prod.mk.inj he
    refine ⟨iff_of_true rfl hoption, iff_of_false nofun fun hsequence => ?_, inner, rfl⟩
    have hnone := TypeExpr.not_isSequence_of_isKnown_option hoption.2
    exact Bool.false_ne_true (hnone.symm.trans hsequence.2.1)
  by_cases hsequence : t.IsSequenceUnder kind
  · rw [classify_of_isSequenceUnder hsequence, Option.map_eq_some_iff] at h
    obtain ⟨element, _, he⟩ := h
    obtain ⟨rfl, rfl⟩ := Prod.mk.inj he
    exact ⟨iff_of_false nofun hoption, iff_of_true rfl hsequence, element, rfl⟩
  · rw [classify_otherwise hkind hoption hsequence] at h
    obtain ⟨rfl, rfl⟩ := Prod.mk.inj (Option.some.inj h)
    exact ⟨iff_of_false nofun hoption, iff_of_false nofun hsequence, t, rfl⟩

end Classify

/-! ### The complaint about maps -/

section Wording

variable {front back text : String} {c d : Char} {l : List Char}

theorem head?_toList_append (h : front.toList.head? = some d) (back : String) :
    (front ++ back).toList.head? = some d := by
  rw [String.toList_append, List.head?_append, h]
  rfl

theorem getLast?_toList_append (front : String) (h : back.toList.getLast? = some d) :
    (front ++ back).toList.getLast? = some d := by
  rw [String.toList_append, List.getLast?_append, h]
  rfl

/-- The first character of a text that is spelled out. -/
theorem head?_toList_of_spelled (htext : String.ofList l = text) (h : l.head? = some d) :
    text.toList.head? = some d := by
  rw [← htext, String.toList_ofList, h]

theorem getLast?_toList_of_spelled (htext : String.ofList l = text) (h : l.getLast? = some d) :
    text.toList.getLast? = some d := by
  rw [← htext, String.toList_ofList, h]

theorem ne_of_head? (h : text.toList.head? = some d) (hd : (d == c) = false) :
    text.toList.head? ≠ some c := by
  rw [h]
  exact fun he => beq_eq_false_iff_ne.mp hd (Option.some.inj he)

theorem ne_of_getLast? (h : text.toList.getLast? = some d) (hd : (d == c) = false) :
    text.toList.getLast? ≠ some c := by
  rw [h]
  exact fun he => beq_eq_false_iff_ne.mp hd (Option.some.inj he)

end Wording

theorem RoleKind.displayName_injective {kind kind' : RoleKind}
    (h : kind.displayName = kind'.displayName) : kind = kind' := by
  revert h
  cases kind <;> cases kind' <;> simp [RoleKind.displayName]

/-- The complaint starts with the sign of a role and ends with the word for a key. -/
theorem Violation.ends_of_notStringMap (kind : RoleKind) :
    (Violation.notStringMap kind).message.toList.head? = some '@' ∧
      (Violation.notStringMap kind).message.toList.getLast? = some 'y' := by
  refine ⟨head?_toList_append ?_ _, getLast?_toList_append _ (getLast?_toList_of_spelled rfl rfl)⟩
  cases kind <;> exact head?_toList_of_spelled rfl rfl

/-- No syntactic complaint starts like that. -/
theorem Code.Complaint.head?_message_ne (complaint : Code.Complaint) :
    complaint.message.toList.head? ≠ some '@' := by
  cases complaint with
  | expected what =>
    exact ne_of_head? (head?_toList_append (head?_toList_of_spelled rfl rfl) what) rfl
  | castOperator what =>
    exact ne_of_head? (head?_toList_append (head?_toList_of_spelled rfl rfl) what) rfl
  | keyword word =>
    exact ne_of_head? (head?_toList_append
      (head?_toList_append (head?_toList_of_spelled rfl rfl) word) _) rfl
  | leftover closing =>
    cases closing with
    | none => exact ne_of_head? (head?_toList_of_spelled rfl rfl) rfl
    | some d =>
      exact ne_of_head? (head?_toList_append
        (head?_toList_append (head?_toList_of_spelled rfl rfl) _) _) rfl
  | _ => exact ne_of_head? (head?_toList_of_spelled rfl rfl) rfl

theorem Code.SyntaxFault.head?_message_ne (fault : Code.SyntaxFault) :
    fault.message.toList.head? ≠ some '@' := by
  unfold Code.SyntaxFault.message
  split
  · exact ne_of_head? (head?_toList_append (head?_toList_of_spelled rfl rfl) _) rfl
  · exact fault.complaint.head?_message_ne

/-- The other rules are worded with another start or another end. -/
theorem Violation.eq_notStringMap_of_ends {v : Violation}
    (hfront : v.message.toList.head? = some '@') (hback : v.message.toList.getLast? = some 'y') :
    ∃ kind, v = .notStringMap kind := by
  cases v with
  | notStringMap kind => exact ⟨kind, rfl⟩
  | syntaxFault complaint atEnd =>
    exact absurd hfront (Code.SyntaxFault.head?_message_ne ⟨complaint, .nowhere, atEnd⟩)
  -- these have an end of their own behind whatever they are about
  | notString _ | notTypePath _ | missingPath _ | twoVerbs _ _ | verbNeedsString _
  | takesNoArguments _ | methodMarkerOnParameter _ | takesNoValue _ | takesNoName _
  | takesNoEncoded _ | roleOnMethod _ =>
    exact absurd hback (ne_of_getLast?
      (getLast?_toList_append _ (getLast?_toList_of_spelled rfl rfl)) rfl)
  | urlTwice verb =>
    refine absurd hback ?_
    cases verb <;> exact ne_of_getLast? (getLast?_toList_append _ (getLast?_toList_append _
      (getLast?_toList_of_spelled rfl rfl))) rfl
  | headerWithoutName | bothEncodings | fieldOutsideForm | partOutsideMultipart | bodyInForm
  | bodyInMultipart | urlNotString =>
    exact absurd hback (ne_of_getLast? (getLast?_toList_of_spelled rfl rfl) rfl)
  | unsupportedReturn =>
    exact absurd hfront (ne_of_head?
      (head?_toList_append (head?_toList_of_spelled rfl rfl) _) rfl)
  | _ => exact absurd hfront (ne_of_head? (head?_toList_of_spelled rfl rfl) rfl)

/-- The complaint about maps is worded as no other, and names its role. -/
theorem Violation.eq_notStringMap_of_message {v : Violation} {kind : RoleKind}
    (h : v.message = (Violation.notStringMap kind).message) : v = .notStringMap kind := by
  obtain ⟨hfront, hback⟩ := Violation.ends_of_notStringMap kind
  obtain ⟨kind', rfl⟩ := Violation.eq_notStringMap_of_ends (h ▸ hfront) (h ▸ hback)
  have hname : kind'.displayName.toList = kind.displayName.toList := by
    refine (List.append_left_inj " must be a Map with a String key".toList).mp ?_
    rw [← String.toList_append, ← String.toList_append]
    exact congrArg String.toList h
  rw [RoleKind.displayName_injective (String.toList_inj.mp hname)]

/-! ### Who asks for a map -/

/-- The wording of a report is that of the complaint about maps under a role. -/
def Diagnostic.AsksForMap (kind : RoleKind) (d : Diagnostic) : Prop :=
  d.message = kind.displayName ++ " must be a Map with a String key"

theorem Diagnostic.asksForMap_declaration {v : Violation} {anchor : Anchor} {kind : RoleKind} :
    (declaration v anchor).AsksForMap kind ↔ v = .notStringMap kind :=
  ⟨Violation.eq_notStringMap_of_message, fun h => congrArg Violation.message h⟩

/-- A report about something else than a map. -/
def Diagnostic.IsOther (d : Diagnostic) : Prop :=
  ∀ kind, ¬ d.AsksForMap kind

theorem Diagnostic.isOther_declaration {v : Violation} {anchor : Anchor}
    (h : ∀ kind, v ≠ .notStringMap kind) : (declaration v anchor).IsOther :=
  fun kind hmap => h kind (asksForMap_declaration.mp hmap)

theorem RoleArguments.otherwise_of_add {arguments : RoleArguments} {item : RoleItem}
    {e : Violation × Span} (h : arguments.add item = .error e) (kind : RoleKind) :
    e.1 ≠ .notStringMap kind := by
  have hname (name : String) (span : Span) (h : arguments.setName name span = .error e) :
      e.1 ≠ .notStringMap kind := by
    unfold setName at h
    split at h
    · obtain rfl := Except.error.inj h
      nofun
    · split at h
      · obtain rfl := Except.error.inj h
        nofun
      · cases h
  cases item with
  | literal name span => exact hname name span h
  | named name span => exact hname name span h
  | encoded span => cases h
  | encodedIs flag span => cases flag <;> cases h
  | _ =>
    obtain rfl := Except.error.inj h
    nofun

/-- The arguments of a role break other rules. -/
theorem RoleArguments.ends_read_otherwise (trees : Tokens) (scope : Span) :
    Ends (fun e => ∀ kind, e.1 ≠ .notStringMap kind) (fun _ => True)
      (RoleArguments.read trees scope) := by
  have hitems (items : List RoleItem) :
      Ends (fun e => ∀ kind, e.1 ≠ .notStringMap kind) (fun _ => True)
        (RoleArguments.ofItems items) := by
    refine .foldlM trivial fun item _ arguments _ => ?_
    cases hadd : arguments.add item with
    | error e => exact RoleArguments.otherwise_of_add hadd
    | ok => trivial
  unfold RoleArguments.read
  dsimp only
  split
  · exact fun _ => nofun
  · next items fault cursor _ =>
    have h := hitems items
    split
    · next e he =>
      rw [he] at h
      exact h
    · split
      · exact fun _ => nofun
      · trivial

theorem Role.ends_ofArguments_otherwise (kind : RoleKind) (arguments : RoleArguments)
    (parameter : String) (anchor : Anchor) :
    Ends Diagnostic.IsOther (fun _ => True) (Role.ofArguments kind arguments parameter anchor) := by
  unfold Role.ofArguments
  dsimp only
  split
  · exact Diagnostic.isOther_declaration fun _ => nofun
  · split
    · exact Diagnostic.isOther_declaration fun _ => nofun
    · split
      all_goals try trivial
      -- only a header needs more than that
      split
      · trivial
      · exact Diagnostic.isOther_declaration fun _ => nofun

theorem Role.ends_ofAttribute_otherwise (a : Attribute) (kind : RoleKind) (parameter : String) :
    Ends Diagnostic.IsOther (fun _ => True) (Role.ofAttribute a kind parameter) := by
  unfold Role.ofAttribute
  dsimp only
  split
  · exact ends_ofArguments_otherwise kind .empty parameter _
  · next trees group _ =>
    have hread := RoleArguments.ends_read_otherwise trees group.lastChar
    split
    · next v place he =>
      rw [he] at hread
      exact Diagnostic.isOther_declaration hread
    · exact ends_ofArguments_otherwise kind _ parameter _
  · exact Diagnostic.isOther_declaration fun _ => nofun

theorem ends_rolesOf_otherwise (input : TypedInput) (attributes : List Attribute) :
    Ends Diagnostic.IsOther (fun _ => True) (rolesOf input attributes) := by
  induction attributes with
  | nil => trivial
  | cons a rest ih =>
    unfold rolesOf
    split
    · exact ih
    · exact ih.map fun _ _ => trivial
    · exact Diagnostic.isOther_declaration fun _ => nofun

theorem ends_analyzeCallback_otherwise (input : TypedInput) (name : String) (isLast : Bool) :
    Ends Diagnostic.IsOther (fun _ => True) (analyzeCallback input name isLast) := by
  unfold analyzeCallback
  dsimp only
  repeat' split
  all_goals first | trivial | exact Diagnostic.isOther_declaration fun _ => nofun

theorem roleRule_otherwise {encoding : Encoding} {before : List ParameterDescriptor}
    {type : TypeExpr} {kind : RoleKind} {v : Violation}
    (h : roleRule encoding before type kind = some v) (kind' : RoleKind) :
    v ≠ .notStringMap kind' := by
  rintro rfl
  unfold roleRule at h
  repeat' split at h
  all_goals cases h

/-- A parameter that is asked to be a map has a type without a shape under its role. -/
theorem ends_analyzeParameter_asksForMap {encoding : Encoding} {before : List ParameterDescriptor}
    {input : TypedInput} {name : String} {kind : RoleKind} {a : Attribute} :
    Ends (fun d : Diagnostic => ∀ kind', d.AsksForMap kind' →
        kind' = kind ∧ classify input.type kind = none) (fun _ => True)
      (analyzeParameter encoding before input name kind a) := by
  have hrole := Role.ends_ofAttribute_otherwise a kind name
  unfold analyzeParameter
  dsimp only
  split
  · exact fun kind' h => nomatch Diagnostic.asksForMap_declaration.mp h
  · split
    · next d hd =>
      rw [hd] at hrole
      exact fun kind' h => (hrole kind' h).elim
    · split
      · next hnone =>
        intro kind' h
        have hkind := Diagnostic.asksForMap_declaration.mp h
        exact ⟨(Violation.notStringMap.inj hkind).symm, hnone⟩
      · split
        · next v hv =>
          exact fun kind' h => (Diagnostic.isOther_declaration (roleRule_otherwise hv) kind' h).elim
        · trivial

theorem ends_analyzeInput_asksForMap (encoding : Encoding) (before : List ParameterDescriptor)
    (isLast : Bool) (input : TypedInput) :
    Ends (fun d : Diagnostic => ∀ kind, d.AsksForMap kind →
        kind ∈ roleKindsOf input.attributes ∧ classify input.type kind = none) (fun _ => True)
      (analyzeInput encoding before isLast input) := by
  have hroles := ends_rolesOf_otherwise input input.attributes
  unfold analyzeInput
  split
  · exact fun kind h => nomatch Diagnostic.asksForMap_declaration.mp h
  · split
    · next d hd =>
      rw [hd] at hroles
      exact fun kind h => (hroles kind h).elim
    · refine ((ends_analyzeCallback_otherwise input _ isLast).imp fun d hd kind h => ?_).map
        fun _ _ => trivial
      exact (hd kind h).elim
    · next kind a hr =>
      refine (ends_analyzeParameter_asksForMap.imp fun d hd kind' h => ?_).map fun _ _ => trivial
      obtain ⟨rfl, hnone⟩ := hd kind' h
      rw [← rolesOf_kinds hr]
      exact ⟨List.mem_singleton_self _, hnone⟩
    · exact fun kind h => nomatch Diagnostic.asksForMap_declaration.mp h

/-- Where a map is asked for, one of the inputs has no shape under a role that it names. -/
theorem exists_of_asksForMap {encoding : Encoding} {before : List ParameterDescriptor}
    {inputs : List TypedInput} {d : Diagnostic} {kind : RoleKind}
    (h : analyzeInputs encoding before inputs = .error d) (hmap : d.AsksForMap kind) :
    ∃ input ∈ inputs, kind ∈ roleKindsOf input.attributes ∧ classify input.type kind = none := by
  obtain ⟨front, input, after, qs, rfl, -, hinput⟩ := analyzeInputs_eq_error.mp h
  have hends := ends_analyzeInput_asksForMap encoding (before ++ qs) after.isEmpty input
  rw [hinput] at hends
  exact ⟨input, List.mem_append_right _ List.mem_cons_self, hends kind hmap⟩

/-! ### Values and complaints -/

/-- A type has no shape exactly where a role of maps gets something else than a map of strings, or
where an option or a list lacks the type argument that the role asks for. Otherwise role and type
decide on the shape, and nothing stands around the type of a contribution. A map is asked for only
where a type has no shape under a role that its input names. -/
theorem values_classified_exactly (t : TypeExpr) (kind : RoleKind) :
    (classify t kind = none ↔
      (kind.isMap = true ∧ ¬ t.IsStringMap) ∨ t.LacksArgument kind) ∧
    ((classify t kind = none ↔ kind.isMap = true ∧ ¬ t.IsStringMap) ↔ ¬ t.LacksArgument kind) ∧
    (∀ shape v, classify t kind = some (shape, v) →
      (shape = .map ↔ kind.isMap = true) ∧ (shape = .optional ↔ t.IsOptionUnder kind) ∧
      (shape = .repeated ↔ t.IsSequenceUnder kind) ∧
      (shape = .single ↔
        kind.isMap = false ∧ ¬ t.IsOptionUnder kind ∧ ¬ t.IsSequenceUnder kind) ∧
      ∀ tokens inner, v ≠ .reference tokens inner ∧ v ≠ .paren tokens inner) ∧
    ∀ (encoding : Encoding) (inputs : List TypedInput) (d : Diagnostic),
      analyzeInputs encoding [] inputs = .error d → d.AsksForMap kind →
        ∃ input ∈ inputs, kind ∈ roleKindsOf input.attributes ∧
          ((kind.isMap = true ∧ ¬ input.type.IsStringMap) ∨ input.type.LacksArgument kind) := by
  refine ⟨classify_eq_none, ?_, ?_, ?_⟩
  · rw [classify_eq_none]
    constructor
    · intro h hlacks
      exact (not_under_of_isMap (h.mp (.inr hlacks)).1).2.2 hlacks
    · exact or_iff_left
  · intro shape v h
    obtain ⟨hmap, hoptional, hrepeated, inner, rfl⟩ := classify_eq_some h
    refine ⟨hmap, hoptional, hrepeated, ?_, fun tokens other =>
      ⟨inner.strip_ne_reference tokens other, inner.strip_ne_paren tokens other⟩⟩
    rw [← hoptional, ← hrepeated, ← Bool.not_eq_true, ← hmap]
    cases shape <;> simp
  · intro encoding inputs d h hmap
    obtain ⟨input, hmem, hkind, hnone⟩ := exists_of_asksForMap h hmap
    exact ⟨input, hmem, hkind, classify_eq_none.mp hnone⟩

/-- Tags that may be missing, and a map of headers that is none. -/
theorem values_classified_exactly_tags :
    classify (appliedType "Option" (.reference [] (plainType "str"))) .query =
        some (.optional, plainType "str") ∧
      (appliedType "Option" (.reference [] (plainType "str"))).IsOptionUnder .query ∧
      ¬ (plainType "str").IsStringMap := by
  have hshape : classify (appliedType "Option" (.reference [] (plainType "str"))) .query =
      some (.optional, plainType "str") := by rfl
  obtain ⟨-, -, hshapes, -⟩ :=
    values_classified_exactly (appliedType "Option" (.reference [] (plainType "str"))) .query
  obtain ⟨-, hoptional, -⟩ := hshapes _ _ hshape
  have hinputs : analyzeInputs .none [] [flaggedInput (some "header_map") "all" (plainType "str")] =
      broken (.notStringMap .headerMap)
        (((Anchor.on .nowhere).withMark .nowhere).withValue .nowhere) := by rfl
  obtain ⟨-, -, -, hasked⟩ := values_classified_exactly (plainType "str") .headerMap
  obtain ⟨input, hmem, -, hmap | hlacks⟩ := hasked _ _ _ hinputs rfl
  · obtain rfl := List.mem_singleton.mp hmem
    exact ⟨hshape, hoptional.mp rfl, hmap.2⟩
  · obtain ⟨-, ⟨hkind, -⟩ | ⟨hkind, -⟩⟩ := hlacks <;> exact absurd hkind (by decide)

/-- An option without its type argument has no shape under a role of single values, and a map is
asked for. -/
theorem map_asked_for_bare_option :
    ¬ (classify (plainType "Option") .query = none ↔
        RoleKind.query.isMap = true ∧ ¬ (plainType "Option").IsStringMap) ∧
      (analyzeInputs .none [] [flaggedInput (some "query") "limit" (plainType "Option")]).mapError
          Diagnostic.message = .error "@Query must be a Map with a String key" := by
  have hnone : classify (plainType "Option") .query = none := by rfl
  exact ⟨fun h => Bool.false_ne_true (h.mp hnone).1, by rfl⟩

end RestClient
