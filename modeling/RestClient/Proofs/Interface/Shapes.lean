import RestClient.Interface.ValueShape

/-!
# Shapes and roles

References and parentheses around a type change nothing, and the shape of a value depends on the
role only as far as the role allows: maps stand under the roles of maps, and a role that takes one
value gets one.
-/

namespace RestClient

open Code (TypeExpr)

namespace Code.TypeExpr

theorem strip_strip (t : TypeExpr) : t.strip.strip = t.strip := by
  fun_induction strip t with
  | case1 _ t ih => exact ih
  | case2 _ t ih => exact ih
  | case3 t href hparen =>
    cases t with
    | reference tokens inner => exact absurd rfl (href tokens inner)
    | paren tokens inner => exact absurd rfl (hparen tokens inner)
    | _ => rfl

theorem canonical?_strip (t : TypeExpr) : t.strip.canonical? = t.canonical? := by
  rw [canonical?, strip_strip, ← canonical?]

theorem argument?_strip (t : TypeExpr) (index : Nat) :
    t.strip.argument? index = t.argument? index := by
  rw [argument?, arguments, strip_strip, ← arguments, ← argument?]

theorem isSequence_strip (t : TypeExpr) : t.strip.isSequence = t.isSequence := by
  rw [isSequence, strip_strip, canonical?_strip, ← isSequence]

theorem element?_strip (t : TypeExpr) : t.strip.element? = t.element? := by
  rw [element?, strip_strip, isSequence_strip, argument?_strip, ← element?]

theorem isKnown_strip (t : TypeExpr) (spelling : String) :
    t.strip.isKnown spelling = t.isKnown spelling := by
  rw [isKnown, canonical?_strip, ← isKnown]

theorem belongsTo_strip (t : TypeExpr) (c : TypeClass) :
    t.strip.belongsTo c = t.belongsTo c := by
  cases c <;> simp only [belongsTo, isSequenceOf, isKnown_strip, canonical?_strip, argument?_strip,
    isSequence_strip, element?_strip]

end Code.TypeExpr

/-- The shape of a map is the shape under the roles of maps. -/
theorem classify_map_iff {t : TypeExpr} {kind : RoleKind} {shape : ValueShape} {v : TypeExpr}
    (h : classify t kind = some (shape, v)) : shape = .map ↔ kind.isMap = true := by
  unfold classify at h
  dsimp only at h
  split at h
  · next hmap =>
    unfold classifyMap at h
    split at h
    · split at h
      · split at h
        · obtain ⟨rfl, _⟩ : ValueShape.map = shape ∧ _ := by simpa using h
          simp [hmap]
        · cases h
      · cases h
    · cases h
  · next hmap =>
    split at h
    · obtain ⟨_, _, he⟩ := Option.map_eq_some_iff.mp h
      obtain ⟨rfl, _⟩ : ValueShape.optional = shape ∧ _ := by simpa using he
      simp [hmap]
    · split at h
      · obtain ⟨_, _, he⟩ := Option.map_eq_some_iff.mp h
        obtain ⟨rfl, _⟩ : ValueShape.repeated = shape ∧ _ := by simpa using he
        simp [hmap]
      · obtain ⟨rfl, _⟩ : ValueShape.single = shape ∧ _ := by simpa using h
        simp [hmap]

/-- A role that takes neither maps nor missing values nor sequences takes one value. -/
theorem classify_single {t : TypeExpr} {kind : RoleKind} (hmap : kind.isMap = false)
    (hoptional : kind.mayBeOptional = false) (hrepeated : kind.mayBeRepeated = false) :
    classify t kind = some (.single, t.strip) := by
  simp [classify, hmap, hoptional, hrepeated]

end RestClient
