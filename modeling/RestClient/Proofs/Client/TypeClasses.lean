import RestClient.Client.ConverterPlan
import RestClient.Proofs.Interface.Classification

/-!
# Classes of types do not overlap

Which class a type belongs to is decided by its head, and no head makes two classes of types, except
that octets are sequences, too. So the tests that choose the form of a body, the form of a response
and the shape of a value exclude each other, or agree where they do not: whichever of them is made
first, the answer is the same.

## Main definitions

- `TypeClass.heads` — the heads of the types of a class
- `TypeClass.family` — the classes, with octets among the sequences
- `firstMatch`, `Compatible` — alternatives that are tried in order, and those whose order is free
- `bodyTests`, `responseTests`, `shapeTests` — the alternatives of the forms and of the shapes

## Main results

- `family_eq_of_belongsTo` — the classes of one type are of one family
- `belongsTo_bytes_iff` — the types of octets
- `firstMatch_perm` — compatible alternatives can be tried in every order
- `classes_exclude_each_other` — classes, octets, and the order of tests
-/

namespace RestClient

open Code (TypeExpr)

namespace Code.TypeExpr

/-! ### Heads of classes -/

/-- The heads of the types of a class. -/
def TypeClass.heads : TypeClass → List String
  | .str => stringNames ++ stringWrappers
  | .map => mapNames
  | .sequence => ["[]", "[;]"] ++ sequenceNames
  | .bytes => ["[]", "[;]", "std::vec::Vec", "bytes::Bytes"]
  | .unit => ["()"]

/-- A class, where octets count as sequences. -/
def TypeClass.family : TypeClass → TypeClass
  | .bytes => .sequence
  | c => c

/-- A head of two classes is one of two classes of sequences. -/
theorem TypeClass.family_eq_of_mem_heads {c d : TypeClass} {name : String} (hc : name ∈ c.heads)
    (hd : name ∈ d.heads) : c.family = d.family := by
  have hapart : c.family ≠ d.family → ∀ other ∈ c.heads, other ∉ d.heads := by
    cases c <;> cases d <;> decide
  by_contra hne
  exact hapart hne name hc hd

variable {t : TypeExpr}

theorem exists_head_of_isSequence (h : t.isSequence = true) :
    ∃ name ∈ TypeClass.sequence.heads, t.canonical? = some name := by
  rcases isSequence_cases h with ⟨-, hslice | harray⟩ | ⟨-, name, hmem, hname⟩
  · exact ⟨_, by decide, hslice⟩
  · exact ⟨_, by decide, harray⟩
  · exact ⟨name, List.mem_append_right _ hmem, hname⟩

/-- Only sequences have elements. -/
theorem isSequence_of_element? {element : TypeExpr} (h : t.element? = some element) :
    t.isSequence = true := by
  unfold element? at h
  split at h
  · next ht => rw [isSequence, ht]
  · next ht => rw [isSequence, ht]
  · split at h
    · next hsequence => exact hsequence
    · cases h
  · cases h

/-- A type of octets is a sequence of octets other than a double-ended one, or has the head that
stands for octets. -/
theorem belongsTo_bytes_iff : t.belongsTo .bytes = true ↔
    (t.belongsTo .sequence = true ∧ t.canonical? ≠ some "std::collections::VecDeque" ∧
      ∃ element, t.element? = some element ∧ same element octet = true) ∨
    t.canonical? = some "bytes::Bytes" := by
  have hdeque : canonicalName "VecDeque" = "std::collections::VecDeque" := by decide
  simp only [belongsTo, isSequenceOf, isKnown, hdeque, Bool.or_eq_true, Bool.and_eq_true,
    Bool.not_eq_true', beq_iff_eq, beq_eq_false_iff_ne]
  rw [or_comm]
  refine or_congr_left ?_
  cases helement : t.element? with
  | none => simp
  | some element => simp [isSequence_of_element? helement, and_comm]

/-- A type that belongs to a class has one of its heads. -/
theorem exists_head_of_belongsTo {c : TypeClass} (h : t.belongsTo c = true) :
    ∃ name ∈ c.heads, t.canonical? = some name := by
  cases c with
  | sequence => exact exists_head_of_isSequence h
  | unit => exact ⟨"()", List.mem_singleton_self _, beq_iff_eq.mp h⟩
  | bytes =>
    rcases belongsTo_bytes_iff.mp h with ⟨hsequence, hdeque, -⟩ | hname
    · obtain ⟨name, hmem, hname⟩ := exists_head_of_isSequence hsequence
      refine ⟨name, ?_, hname⟩
      have hne : name ≠ "std::collections::VecDeque" := fun he => hdeque (he ▸ hname)
      simp only [TypeClass.heads, sequenceNames, List.cons_append, List.nil_append, List.mem_cons,
        List.not_mem_nil, or_false] at hmem ⊢
      tauto
    · exact ⟨_, by decide, hname⟩
  | map =>
    cases hname : t.canonical? with
    | none => simp [belongsTo, hname] at h
    | some name => exact ⟨name, by simpa [belongsTo, hname, TypeClass.heads] using h, rfl⟩
  | str =>
    cases hname : t.canonical? with
    | none => simp [belongsTo, hname] at h
    | some name =>
      simp only [belongsTo, hname, Bool.or_eq_true, Bool.and_eq_true, List.contains_iff_mem] at h
      exact ⟨name, List.mem_append.mpr (h.imp_right And.left), rfl⟩

/-- A type belongs to classes of one family only. -/
theorem family_eq_of_belongsTo {c d : TypeClass} (hc : t.belongsTo c = true)
    (hd : t.belongsTo d = true) : c.family = d.family := by
  obtain ⟨name, hmem, hname⟩ := exists_head_of_belongsTo hc
  obtain ⟨name', hmem', hname'⟩ := exists_head_of_belongsTo hd
  obtain rfl := Option.some.inj (hname.symm.trans hname')
  exact TypeClass.family_eq_of_mem_heads hmem hmem'

theorem canonical?_of_head? {name : Option String} (h : t.head? = some (.path name)) :
    t.canonical? = name := by
  unfold head? at h
  cases ht : t.strip with
  | path =>
    rw [ht] at h
    exact Head.path.inj (Option.some.inj h)
  | _ =>
    rw [ht] at h
    cases h

/-- What is the same as a type that is a single name has its head. -/
theorem canonical?_of_same_named {name : String} {arguments : List TypeExpr}
    (h : same t (named name arguments) = true) :
    t.canonical? = (named name arguments).canonical? := by
  obtain ⟨head, hleft, hright, -⟩ := same_iff.mp h
  obtain rfl := Option.some.inj (hright.symm.trans (head?_of_path (a := named name arguments) rfl))
  exact canonical?_of_head? hleft

end Code.TypeExpr

/-! ### Alternatives -/

section

variable {α : Type} {alternatives alternatives' : List (Bool × α)} {otherwise : α}

/-- The answer of the first test that holds. -/
def firstMatch (alternatives : List (Bool × α)) (otherwise : α) : α :=
  match alternatives with
  | [] => otherwise
  | (test, answer) :: rest => if test then answer else firstMatch rest otherwise

/-- Where two tests hold they have one answer. -/
def Compatible (alternatives : List (Bool × α)) : Prop :=
  alternatives.Pairwise fun a b => a.1 = true → b.1 = true → a.2 = b.2

theorem Compatible.of_perm (h : alternatives.Perm alternatives') (hc : Compatible alternatives) :
    Compatible alternatives' :=
  hc.perm h fun hab hb ha => (hab ha hb).symm

/-- Compatible alternatives can be tried in every order. -/
theorem firstMatch_perm (h : alternatives.Perm alternatives') (hc : Compatible alternatives) :
    firstMatch alternatives otherwise = firstMatch alternatives' otherwise := by
  induction h with
  | nil => rfl
  | cons a _ ih => rw [firstMatch, firstMatch, ih (List.Pairwise.of_cons hc)]
  | swap a b l =>
    have hab := (List.pairwise_cons.mp hc).1 a List.mem_cons_self
    obtain ⟨testA, answerA⟩ := a
    obtain ⟨testB, answerB⟩ := b
    cases testA with
    | false => cases testB <;> rfl
    | true =>
      cases testB with
      | false => rfl
      | true => exact hab rfl rfl
  | trans hfirst _ ih ih' => exact (ih hc).trans (ih' (hc.of_perm hfirst))

end

/-- The alternatives of the form in which a type becomes a body. -/
def bodyTests (t : TypeExpr) : List (Bool × BodyForm) :=
  [(t.belongsTo .bytes, .octets), (t.belongsTo .str, .text)]

/-- The alternatives of the form in which a body becomes a type. -/
def responseTests (t : TypeExpr) : List (Bool × ResponseForm) :=
  [(t.belongsTo .unit, .unit), (t.same (.named "String" []), .text),
    (t.same (.named "Vec" [.octet]), .octets)]

/-- The alternatives of the shape of a type under a role: what a role of maps refuses, options, and
sequences that are no octets. -/
def shapeTests (t : TypeExpr) (kind : RoleKind) : List (Bool × Option (ValueShape × TypeExpr)) :=
  [(kind.isMap && !t.belongsTo .map, none),
    (kind.isMap && !(t.argument? 0).any (·.belongsTo .str), none),
    (kind.mayBeOptional && t.isKnown "Option",
      (t.argument? 0).map fun inner => (.optional, inner.strip)),
    (kind.mayBeRepeated && (t.belongsTo .sequence && !t.belongsTo .bytes),
      t.element?.map fun element => (.repeated, element.strip))]

/-- The shape of a type that passes all tests. -/
def plainShape (t : TypeExpr) (kind : RoleKind) : Option (ValueShape × TypeExpr) :=
  if kind.isMap then (t.argument? 1).map fun value => (.map, value.strip)
  else some (.single, t.strip)

variable {t : TypeExpr}

theorem bodyTests_compatible : Compatible (bodyTests t) := by
  refine List.pairwise_pair.mpr fun hbytes hstr => ?_
  have hfamily : TypeExpr.TypeClass.bytes.family = TypeExpr.TypeClass.str.family :=
    TypeExpr.family_eq_of_belongsTo hbytes hstr
  exact absurd hfamily (by decide)

theorem responseTests_compatible : Compatible (responseTests t) := by
  have hunit (h : t.belongsTo .unit = true) : t.canonical? = some "()" := beq_iff_eq.mp h
  have hstring (h : t.same (.named "String" []) = true) :
      t.canonical? = some "std::string::String" :=
    (TypeExpr.canonical?_of_same_named h).trans (by decide)
  have hvec (h : t.same (.named "Vec" [.octet]) = true) : t.canonical? = some "std::vec::Vec" :=
    (TypeExpr.canonical?_of_same_named h).trans (by decide)
  refine .cons (List.forall_mem_cons.mpr ⟨fun h h' => ?_,
    List.forall_mem_singleton.mpr fun h h' => ?_⟩) (List.pairwise_pair.mpr fun h h' => ?_)
  · exact absurd ((hunit h).symm.trans (hstring h')) (by decide)
  · exact absurd ((hunit h).symm.trans (hvec h')) (by decide)
  · exact absurd ((hstring h).symm.trans (hvec h')) (by decide)

/-- Maps are asked for by roles that ask for nothing else. -/
theorem RoleKind.asks_once {kind : RoleKind} (h : kind.isMap = true) :
    kind.mayBeOptional = false ∧ kind.mayBeRepeated = false := by
  revert h
  cases kind <;> decide

theorem shapeTests_compatible {kind : RoleKind} : Compatible (shapeTests t kind) := by
  unfold Compatible shapeTests
  cases hmap : kind.isMap with
  | true =>
    obtain ⟨hoptional, hrepeated⟩ := RoleKind.asks_once hmap
    simp [hoptional, hrepeated]
  | false =>
    have hexclusive (hoption : t.isKnown "Option" = true) : t.belongsTo .sequence ≠ true := by
      rw [show t.belongsTo .sequence = false from TypeExpr.not_isSequence_of_isKnown_option hoption]
      exact Bool.false_ne_true
    simp only [Bool.false_and, List.pairwise_cons, List.forall_mem_cons, List.not_mem_nil,
      false_imp_iff, forall_const, Bool.false_eq_true, Bool.and_eq_true, List.Pairwise.nil,
      and_true, true_and]
    exact fun hoption hsequence => absurd hsequence.2.1 (hexclusive hoption.2)

/-- The two refusals of a role of maps. -/
theorem classifyMap_eq_firstMatch : classifyMap t =
    firstMatch [(!t.belongsTo .map, none), (!(t.argument? 0).any (·.belongsTo .str), none)]
      ((t.argument? 1).map fun value => (.map, value.strip)) := by
  unfold classifyMap
  cases t.belongsTo .map with
  | false => rfl
  | true =>
    cases t.argument? 0 with
    | none => rfl
    | some key =>
      cases hkey : key.belongsTo .str <;> cases t.argument? 1 <;> simp [firstMatch, hkey]

theorem firstMatch_shapeTests {kind : RoleKind} :
    firstMatch (shapeTests t kind) (plainShape t kind) = classify t kind := by
  cases hmap : kind.isMap with
  | true =>
    obtain ⟨hoptional, hrepeated⟩ := RoleKind.asks_once hmap
    rw [classify_of_isMap hmap, classifyMap_eq_firstMatch]
    simp only [firstMatch, shapeTests, plainShape, hmap, hoptional, hrepeated, Bool.true_and,
      Bool.false_and, Bool.false_eq_true, if_true, if_false]
  | false =>
    simp only [classify, firstMatch, shapeTests, plainShape, hmap, Bool.false_and, Bool.and_assoc,
      Bool.false_eq_true, if_false, TypeExpr.isKnown_strip, TypeExpr.argument?_strip,
      TypeExpr.belongsTo_strip, TypeExpr.element?_strip]

/-! ### One class, and tests in any order -/

/-- Of tests that exclude each other one holds at most. -/
theorem count_true_le_one {tests : List Bool}
    (h : tests.Pairwise fun a b => ¬ (a = true ∧ b = true)) : tests.count true ≤ 1 := by
  induction h with
  | nil => exact Nat.zero_le _
  | @cons test rest hfirst _ ih =>
    cases test with
    | false => simpa using ih
    | true =>
      have hnone : rest.count true = 0 :=
        List.count_eq_zero.mpr fun hmem => hfirst true hmem ⟨rfl, rfl⟩
      rw [List.count_cons_self, hnone]

/-- Of strings, maps, the empty type, and sequences with octets, a type belongs to one at most.
Octets are the sequences of octets that are not double-ended, and one head of their own. And the
forms of bodies and of responses and the shapes of values do not depend on the order in which the
classes are asked for. -/
theorem classes_exclude_each_other (t : TypeExpr) :
    [t.belongsTo .str, t.belongsTo .map, t.belongsTo .unit,
      t.belongsTo .sequence || t.belongsTo .bytes].count true ≤ 1 ∧
    (t.belongsTo .bytes = true ↔
      (t.belongsTo .sequence = true ∧ t.canonical? ≠ some "std::collections::VecDeque" ∧
        ∃ element, t.element? = some element ∧ element.same .octet = true) ∨
      t.canonical? = some "bytes::Bytes") ∧
    (∀ tests, tests.Perm (bodyTests t) → firstMatch tests .converted = bodyForm t) ∧
    (∀ tests, tests.Perm (responseTests t) → firstMatch tests .converted = responseForm t) ∧
    ∀ kind tests, tests.Perm (shapeTests t kind) →
      firstMatch tests (plainShape t kind) = classify t kind := by
  refine ⟨?_, TypeExpr.belongsTo_bytes_iff, fun tests h => ?_, fun tests h => ?_,
    fun kind tests h => ?_⟩
  · have hexclude (c d : TypeExpr.TypeClass) (hne : c.family ≠ d.family) :
        ¬ (t.belongsTo c = true ∧ t.belongsTo d = true) :=
      fun h => hne (TypeExpr.family_eq_of_belongsTo h.1 h.2)
    refine count_true_le_one ?_
    simp only [List.pairwise_cons, List.forall_mem_cons, List.not_mem_nil, false_imp_iff,
      forall_const, List.Pairwise.nil, and_true, Bool.or_eq_true, and_or_left, not_or]
    exact ⟨⟨hexclude .str .map (by decide), hexclude .str .unit (by decide),
        hexclude .str .sequence (by decide), hexclude .str .bytes (by decide)⟩,
      ⟨hexclude .map .unit (by decide), hexclude .map .sequence (by decide),
        hexclude .map .bytes (by decide)⟩,
      hexclude .unit .sequence (by decide), hexclude .unit .bytes (by decide)⟩
  · exact (firstMatch_perm h.symm bodyTests_compatible).symm
  · exact (firstMatch_perm h.symm responseTests_compatible).symm
  · rw [← firstMatch_shapeTests]
    exact (firstMatch_perm h.symm shapeTests_compatible).symm

/-- A borrowed list of octets, which is a sequence, too, with the tests made from the last to the
first. -/
theorem classes_exclude_each_other_octets :
    let t := TypeExpr.reference [] (.named "Vec" [.octet])
    t.belongsTo .bytes = true ∧ t.belongsTo .sequence = true ∧
      t.canonical? ≠ some "bytes::Bytes" ∧
      firstMatch (bodyTests t).reverse .converted = .octets ∧
      firstMatch (responseTests t).reverse .converted = .octets ∧
      firstMatch (shapeTests t .query).reverse (plainShape t .query) =
        some (.single, .named "Vec" [.octet]) := by
  intro t
  obtain ⟨-, hoctets, hbody, hresponse, hshape⟩ := classes_exclude_each_other t
  have hbytes : t.belongsTo .bytes = true := by decide +kernel
  have hhead : t.canonical? ≠ some "bytes::Bytes" := by decide +kernel
  refine ⟨hbytes, ((hoctets.mp hbytes).resolve_right hhead).1, hhead, ?_, ?_, ?_⟩
  · rw [hbody _ (List.reverse_perm _)]
    decide +kernel
  · rw [hresponse _ (List.reverse_perm _)]
    decide +kernel
  · rw [hshape .query _ (List.reverse_perm _)]
    rfl

end RestClient
