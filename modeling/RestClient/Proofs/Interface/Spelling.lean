import RestClient.Proofs.Interface.TypeEquality

/-!
# Spellings of types

A known type has many spellings, and a type may stand behind references and in parentheses. So one
type is written in many ways, at every depth of its arguments. No query tells them apart: two ways
to write a type have the same canonical name and the same outline, are the same as the same types,
belong to the same classes, and make the same shape under every role, of values that are again two
ways to write one type.

## Main definitions

- `TypeExpr.SpellOneName` — two spellings of one name
- `TypeExpr.Respelling` — two ways to write a type
- `SameShape` — one shape, of values that are written in two ways

## Main results

- `Respelling.outline?_eq` — two ways to write a type have one outline
- `queries_ignore_spelling` — no query tells two ways to write a type apart
-/

namespace RestClient

open Code (TypeExpr)

/-- Every spelling of a known type is known as this type, and as no other one. -/
theorem canonicalName_of_mem : ∀ row ∈ knownTypes, ∀ written ∈ row.spellings,
    canonicalName written = row.canonical := by
  decide +kernel

namespace Code.TypeExpr

/-- The same names, or two spellings of one known type. -/
def SpellOneName (names names' : List String) : Prop :=
  names = names' ∨ ∃ row ∈ knownTypes,
    joinNames names ∈ row.spellings ∧ joinNames names' ∈ row.spellings

theorem SpellOneName.canonicalName_eq {names names' : List String} (h : SpellOneName names names') :
    canonicalName (joinNames names) = canonicalName (joinNames names') := by
  rcases h with rfl | ⟨row, hrow, hnames, hnames'⟩
  · rfl
  · rw [canonicalName_of_mem row hrow _ hnames, canonicalName_of_mem row hrow _ hnames']

/-! ### Two ways to write a type -/

mutual

/-- Two ways to write a type: the same tree, with a known type perhaps under another spelling, and
with references and parentheses anywhere. The tree leaves out what no query looks at, as the length
of an array, the lifetimes of a path, and the inside of a function pointer. How these have to agree
is said by `alike`, which is free. -/
inductive Respelling (alike : TypeExpr → TypeExpr → Prop) : TypeExpr → TypeExpr → Prop
  | slice {a b e f : TypeExpr} {s t : Tokens} (left : a.strip = slice s e)
      (right : b.strip = slice t f) (element : Respelling alike e f) : Respelling alike a b
  | array {a b e f : TypeExpr} {s t : Tokens} (left : a.strip = array s e)
      (right : b.strip = array t f) (unseen : alike a.strip b.strip)
      (element : Respelling alike e f) : Respelling alike a b
  | tuple {a b : TypeExpr} {s t : Tokens} {es fs : List TypeExpr} (left : a.strip = tuple s es)
      (right : b.strip = tuple t fs) (elements : List.Forall₂ (Respelling alike) es fs) :
      Respelling alike a b
  | path {a b : TypeExpr} {s t : Tokens} {q r : Option TypeExpr} {names names' : List String}
      {as bs : List TypeExpr} (left : a.strip = path s q names as)
      (right : b.strip = path t r names' bs) (unseen : alike a.strip b.strip)
      (self : Option.Rel (Respelling alike) q r) (head : SpellOneName names names')
      (arguments : List.Forall₂ (Respelling alike) as bs) : Respelling alike a b
  | implTrait {a b : TypeExpr} {s t : Tokens} {ps qs : List Bound}
      (left : a.strip = implTrait s ps) (right : b.strip = implTrait t qs)
      (unseen : alike a.strip b.strip) (bounds : List.Forall₂ (RespelledBound alike) ps qs) :
      Respelling alike a b
  | traitObject {a b : TypeExpr} {s t : Tokens} {ps qs : List Bound}
      (left : a.strip = traitObject s ps) (right : b.strip = traitObject t qs)
      (unseen : alike a.strip b.strip) (bounds : List.Forall₂ (RespelledBound alike) ps qs) :
      Respelling alike a b
  | other {a b : TypeExpr} {s t : Tokens} (left : a.strip = other s) (right : b.strip = other t)
      (unseen : alike a.strip b.strip) : Respelling alike a b

/-- Two ways to write a bound, under the same name of the trait. -/
inductive RespelledBound (alike : TypeExpr → TypeExpr → Prop) : Bound → Bound → Prop
  | trait {name : String} {as bs : List TypeExpr}
      (arguments : List.Forall₂ (Respelling alike) as bs) :
      RespelledBound alike (.trait name as) (.trait name bs)
  | other : RespelledBound alike .other .other

end

namespace Respelling

variable {alike : TypeExpr → TypeExpr → Prop} {a b : TypeExpr}

theorem strip (h : Respelling alike a b) : Respelling alike a.strip b.strip := by
  cases h with
  | slice left right element =>
    exact .slice ((strip_strip a).trans left) ((strip_strip b).trans right) element
  | array left right unseen element =>
    exact .array ((strip_strip a).trans left) ((strip_strip b).trans right)
      (by rwa [strip_strip, strip_strip]) element
  | tuple left right elements =>
    exact .tuple ((strip_strip a).trans left) ((strip_strip b).trans right) elements
  | path left right unseen self head arguments =>
    exact .path ((strip_strip a).trans left) ((strip_strip b).trans right)
      (by rwa [strip_strip, strip_strip]) self head arguments
  | implTrait left right unseen bounds =>
    exact .implTrait ((strip_strip a).trans left) ((strip_strip b).trans right)
      (by rwa [strip_strip, strip_strip]) bounds
  | traitObject left right unseen bounds =>
    exact .traitObject ((strip_strip a).trans left) ((strip_strip b).trans right)
      (by rwa [strip_strip, strip_strip]) bounds
  | other left right unseen =>
    exact .other ((strip_strip a).trans left) ((strip_strip b).trans right)
      (by rwa [strip_strip, strip_strip])

/-! ### Names and outlines -/

theorem canonical?_eq (h : Respelling alike a b) : a.canonical? = b.canonical? := by
  cases h with
  | path left right _ self head _ =>
    rw [canonical?, canonical?, left, right]
    cases self with
    | some => rfl
    | none => exact congrArg some head.canonicalName_eq
  | tuple left right elements =>
    rw [canonical?, canonical?, left, right]
    -- the unit type has a name, as no other tuple has
    cases elements <;> rfl
  | slice left right | array left right | implTrait left right | traitObject left right
  | other left right => rw [canonical?, canonical?, left, right]

theorem head?_eq (h : Respelling alike a b) : a.head? = b.head? := by
  have hname := h.canonical?_eq
  cases h with
  | slice left right | array left right | tuple left right | path left right
  | implTrait left right | traitObject left right | other left right =>
    simp only [head?, left, right, hname]

theorem parts (h : Respelling alike a b) : List.Forall₂ (Respelling alike) a.parts b.parts := by
  cases h with
  | slice left right element | array left right _ element =>
    simpa only [TypeExpr.parts, left, right] using .cons element .nil
  | tuple left right children | path left right _ _ _ children =>
    simpa only [TypeExpr.parts, left, right] using children
  | implTrait left right | traitObject left right | other left right =>
    simpa only [TypeExpr.parts, left, right] using .nil

/-- Two ways to write a type have the same heads all the way down. -/
theorem outline?_eq (h : Respelling alike a b) : a.outline? = b.outline? := by
  induction a using partsInduction generalizing b with
  | step a ih =>
    have hparts : a.parts.mapM outline? = b.parts.mapM outline? :=
      Outcome.mapM_congr h.parts fun p hp _ hpq => ih p hp hpq
    rw [TypeExpr.outline?_eq, TypeExpr.outline?_eq, h.head?_eq, hparts]

theorem same_eq (h : Respelling alike a b) (c : TypeExpr) : a.same c = b.same c := by
  rw [Bool.eq_iff_iff, same_iff_outline, same_iff_outline, h.outline?_eq]

/-! ### Arguments and elements -/

theorem arguments (h : Respelling alike a b) :
    List.Forall₂ (Respelling alike) a.arguments b.arguments := by
  cases h with
  | path left right _ _ _ arguments =>
    simpa only [TypeExpr.arguments, left, right] using arguments
  | slice left right | array left right | tuple left right | implTrait left right
  | traitObject left right | other left right =>
    simpa only [TypeExpr.arguments, left, right] using .nil

theorem argument? (h : Respelling alike a b) (index : Nat) :
    Option.Rel (Respelling alike) (a.argument? index) (b.argument? index) :=
  Outcome.rel_getElem? h.arguments index

theorem isKnown_eq (h : Respelling alike a b) (spelling : String) :
    a.isKnown spelling = b.isKnown spelling := by
  rw [isKnown, isKnown, h.canonical?_eq]

theorem isSequence_eq (h : Respelling alike a b) : a.isSequence = b.isSequence := by
  have hname := h.canonical?_eq
  cases h with
  | slice left right | array left right | tuple left right | path left right
  | implTrait left right | traitObject left right | other left right =>
    simp only [isSequence, left, right, hname]

theorem element? (h : Respelling alike a b) :
    Option.Rel (Respelling alike) a.element? b.element? := by
  have hsequence := h.isSequence_eq
  have hargument := h.argument? 0
  cases h with
  | slice left right element | array left right _ element =>
    simpa only [TypeExpr.element?, left, right] using .some element
  | path left right =>
    simp only [TypeExpr.element?, left, right, hsequence]
    split
    · exact hargument
    · exact .none
  | tuple left right | implTrait left right | traitObject left right | other left right =>
    simpa only [TypeExpr.element?, left, right] using .none

theorem isSequenceOf_eq (h : Respelling alike a b) (element : TypeExpr) :
    a.isSequenceOf element = b.isSequenceOf element := by
  have hsame : a.element?.bind (fun e => some (e.same element)) =
      b.element?.bind fun e => some (e.same element) :=
    Outcome.bind_eq_of_rel h.element? fun _ _ he => congrArg some (he.same_eq element)
  rw [isSequenceOf, isSequenceOf, Option.map_eq_bind, Option.map_eq_bind]
  exact congrArg (Option.getD · false) hsame

theorem belongsTo_eq (h : Respelling alike a b) (c : TypeClass) :
    a.belongsTo c = b.belongsTo c := by
  cases c with
  | str =>
    have hinner : (a.argument? 0).bind canonical? = (b.argument? 0).bind canonical? :=
      Outcome.bind_eq_of_rel (h.argument? 0) fun _ _ hi => hi.canonical?_eq
    simp only [belongsTo, h.canonical?_eq, hinner]
  | map => simp only [belongsTo, h.canonical?_eq]
  | sequence => exact h.isSequence_eq
  | bytes => simp only [belongsTo, h.canonical?_eq, h.isSequenceOf_eq, h.isKnown_eq]
  | unit => simp only [belongsTo, h.canonical?_eq]

end Respelling

end Code.TypeExpr

/-! ### Shapes -/

open Code.TypeExpr (Respelling SpellOneName named reference paren path)

/-- One shape, of values whose types are two ways to write a type. -/
structure SameShape (alike : TypeExpr → TypeExpr → Prop) (v w : ValueShape × TypeExpr) : Prop where
  shape : v.1 = w.1
  type : Respelling alike v.2 w.2

variable {alike : TypeExpr → TypeExpr → Prop} {a b : TypeExpr}

theorem classifyMap_respelled (h : Respelling alike a b) :
    Option.Rel (SameShape alike) (classifyMap a) (classifyMap b) := by
  have hkey := h.argument? 0
  have hvalue := h.argument? 1
  rw [classifyMap, classifyMap, h.belongsTo_eq]
  generalize a.argument? 0 = key, b.argument? 0 = key' at hkey
  generalize a.argument? 1 = value, b.argument? 1 = value' at hvalue
  split
  · cases hkey with
    | none => exact .none
    | some hkey =>
      cases hvalue with
      | none => exact .none
      | some hvalue =>
        simp only [hkey.belongsTo_eq]
        split
        · exact .some ⟨rfl, hvalue.strip⟩
        · exact .none
  · exact .none

theorem classify_respelled (h : Respelling alike a b) (kind : RoleKind) :
    Option.Rel (SameShape alike) (classify a kind) (classify b kind) := by
  have hstrip := h.strip
  simp only [classify, hstrip.isKnown_eq, hstrip.belongsTo_eq]
  split
  · exact classifyMap_respelled hstrip
  · split
    · exact Outcome.rel_map (hstrip.argument? 0) fun _ _ hinner => ⟨rfl, hinner.strip⟩
    · split
      · exact Outcome.rel_map hstrip.element? fun _ _ helement => ⟨rfl, helement.strip⟩
      · exact .some ⟨rfl, hstrip⟩

/-- Two ways to write a type have the same canonical name, are the same as the same types, belong
to the same classes, and have the same shape under every role, or none. -/
theorem queries_ignore_spelling (h : Respelling alike a b) :
    a.canonical? = b.canonical? ∧ (∀ c, a.same c = b.same c) ∧
      (∀ c, a.belongsTo c = b.belongsTo c) ∧
      ∀ kind, Option.Rel (SameShape alike) (classify a kind) (classify b kind) :=
  ⟨h.canonical?_eq, h.same_eq, h.belongsTo_eq, classify_respelled h⟩

/-- A map of strings to sequences of octets in short names, and behind a reference in full names,
with its arguments in parentheses and borrowed. -/
theorem queries_ignore_spelling_of_maps :
    let short := named "HashMap" [named "String" [], named "Vec" [named "u8" []]]
    let full := reference [] (path [] none ["std", "collections", "hash_map", "HashMap"]
      [paren [] (path [] none ["alloc", "string", "String"] []),
        reference [] (path [] none ["std", "vec", "Vec"]
          [reference [] (path [] none ["core", "primitive", "u8"] [])])])
    Respelling (fun _ _ => True) short full ∧ (classify short .queryMap).isSome = true ∧
      Option.Rel (SameShape fun _ _ => True) (classify short .queryMap)
        (classify full .queryMap) := by
  intro short full
  have hstring : SpellOneName ["String"] ["alloc", "string", "String"] := .inr (by decide +kernel)
  have hvec : SpellOneName ["Vec"] ["std", "vec", "Vec"] := .inr (by decide +kernel)
  have hoctet : SpellOneName ["u8"] ["core", "primitive", "u8"] := .inr (by decide +kernel)
  have hmap : SpellOneName ["HashMap"] ["std", "collections", "hash_map", "HashMap"] :=
    .inr (by decide +kernel)
  have hkey : Respelling (fun _ _ => True) (named "String" [])
      (paren [] (path [] none ["alloc", "string", "String"] [])) :=
    .path rfl rfl trivial .none hstring .nil
  have hvalue : Respelling (fun _ _ => True) (named "Vec" [named "u8" []])
      (reference [] (path [] none ["std", "vec", "Vec"]
        [reference [] (path [] none ["core", "primitive", "u8"] [])])) :=
    .path rfl rfl trivial .none hvec (.cons (.path rfl rfl trivial .none hoctet .nil) .nil)
  have h : Respelling (fun _ _ => True) short full :=
    .path rfl rfl trivial .none hmap (.cons hkey (.cons hvalue .nil))
  exact ⟨h, by decide +kernel, (queries_ignore_spelling h).2.2.2 .queryMap⟩

end RestClient
