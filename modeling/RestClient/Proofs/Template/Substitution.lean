import RestClient.Proofs.Template.Nesting

/-!
# Values put into a template at once

A template is read once from left to right. Text outside of groups is copied, a group whose text is
a listed name becomes its value, every other group is copied, and an opening brace that is never
closed ends the reading. What has been written is not read again, so no value is taken for a group
of the template, and the order in which the values are listed does not matter.

## Main definitions

- `Fills` — the reading as a relation between a template and a result

## Main results

- `substitute_eq_iff` — the result is the one that the reading gives
- `substitution_is_simultaneous` — the order of the list, inserted braces, and values that are
  their own groups
-/

namespace RestClient.Template

variable {values values' : List (List Char × List Char)} {template text result : List Char}

/-! ### One step of the reading -/

theorem substitute_nil : substitute [] values = [] := by
  rw [substitute, pieces, List.flatMap_nil]

/-- Text outside of groups is copied. -/
theorem substitute_cons {c : Char} (hc : c ≠ '{') :
    substitute (c :: template) values = c :: substitute template values := by
  rw [substitute, pieces, if_neg hc, List.flatMap_cons]
  rfl

/-- A group gives way to what becomes of it, and the reading goes on behind it. -/
theorem substitute_group (htext : '}' ∉ text) :
    substitute ('{' :: (text ++ '}' :: template)) values =
      (Piece.group text).fill values ++ substitute template values := by
  have hcut : splitAtClose? (text ++ '}' :: template) = some (text, template) :=
    splitAtClose?_eq_some_iff.mpr ⟨rfl, htext⟩
  have hpieces : pieces ('{' :: (text ++ '}' :: template)) = .group text :: pieces template := by
    rw [pieces, if_pos rfl]
    split
    · next found rest h =>
      obtain ⟨rfl, rfl⟩ := Prod.mk.inj (Option.some.inj (hcut.symm.trans h))
      rfl
    · next h => exact absurd (hcut.symm.trans h) (by simp)
  rw [substitute, hpieces, List.flatMap_cons]
  rfl

/-- An opening brace that is never closed is copied with all that follows. -/
theorem substitute_unclosed (htext : '}' ∉ text) :
    substitute ('{' :: text) values = '{' :: text := by
  have hpieces : pieces ('{' :: text) = ('{' :: text).map .char := by
    rw [pieces, if_pos rfl]
    split
    · next found rest h =>
      exact absurd h (by rw [splitAtClose?_eq_none_iff.mpr htext]; simp)
    · rfl
  rw [substitute, hpieces, fill_char_map]

/-! ### The whole reading -/

/-- The reading of a template with values, and what it writes. -/
inductive Fills (values : List (List Char × List Char)) : List Char → List Char → Prop
  | done : Fills values [] []
  | copied {c : Char} {template result : List Char} (hc : c ≠ '{')
      (hrest : Fills values template result) : Fills values (c :: template) (c :: result)
  | listed {name value template result : List Char} (hname : '}' ∉ name)
      (hvalue : (name, value) ∈ values) (hrest : Fills values template result) :
      Fills values ('{' :: (name ++ '}' :: template)) (value ++ result)
  | unlisted {text template result : List Char} (htext : '}' ∉ text)
      (hnone : text ∉ values.map (·.1)) (hrest : Fills values template result) :
      Fills values ('{' :: (text ++ '}' :: template)) ('{' :: (text ++ '}' :: result))
  | unclosed {text : List Char} (htext : '}' ∉ text) : Fills values ('{' :: text) ('{' :: text)

theorem lookup?_eq_some_iff {name value : List Char} (hnames : (values.map (·.1)).Nodup) :
    lookup? values name = some value ↔ (name, value) ∈ values :=
  ⟨mem_of_lookup?, lookup?_eq_some_of_mem hnames⟩

theorem lookup?_eq_none_iff {name : List Char} :
    lookup? values name = none ↔ name ∉ values.map (·.1) := by
  constructor
  · intro h hm
    obtain ⟨entry, hentry, rfl⟩ := List.mem_map.mp hm
    have hnone := List.find?_eq_none.mp (Option.map_eq_none_iff.mp h) entry hentry
    simp at hnone
  · exact lookup?_eq_none_of_not_mem

/-- Every template can be read to its end. -/
theorem fills_substitute (hnames : (values.map (·.1)).Nodup) (template : List Char) :
    Fills values template (substitute template values) := by
  fun_induction pieces template with
  | case1 =>
    rw [substitute_nil]
    exact .done
  | case2 cs text rest hcut ih =>
    obtain ⟨rfl, htext⟩ := splitAtClose?_eq_some_iff.mp hcut
    rw [substitute_group htext, Piece.fill]
    cases hl : lookup? values text with
    | some value => exact .listed htext ((lookup?_eq_some_iff hnames).mp hl) ih
    | none => simpa [Piece.text] using .unlisted htext (lookup?_eq_none_iff.mp hl) ih
  | case3 cs hcut =>
    have htext := splitAtClose?_eq_none_iff.mp hcut
    rw [substitute_unclosed htext]
    exact .unclosed htext
  | case4 c cs hc ih =>
    rw [substitute_cons hc]
    exact .copied hc ih

/-- The reading has one result. -/
theorem Fills.eq_substitute (hnames : (values.map (·.1)).Nodup) (h : Fills values template result) :
    substitute template values = result := by
  induction h with
  | done => exact substitute_nil
  | copied hc _ ih => rw [substitute_cons hc, ih]
  | listed hname hvalue _ ih =>
    rw [substitute_group hname, Piece.fill, (lookup?_eq_some_iff hnames).mpr hvalue, ih]
    rfl
  | unlisted htext hnone _ ih =>
    rw [substitute_group htext, Piece.fill, lookup?_eq_none_iff.mpr hnone, ih]
    simp [Piece.text]
  | unclosed htext => exact substitute_unclosed htext

/-- The result is what the reading writes. -/
theorem substitute_eq_iff (hnames : (values.map (·.1)).Nodup) :
    substitute template values = result ↔ Fills values template result := by
  constructor
  · rintro rfl
    exact fills_substitute hnames template
  · exact Fills.eq_substitute hnames

/-! ### Lists of values -/

/-- What is found under a name does not depend on the order of the list. -/
theorem lookup?_of_perm (hnames : (values.map (·.1)).Nodup) (hperm : values'.Perm values)
    (name : List Char) : lookup? values' name = lookup? values name := by
  have hnames' : (values'.map (·.1)).Nodup := (hperm.map _).nodup_iff.mpr hnames
  cases hl : lookup? values name with
  | some value =>
    have hmem := (lookup?_eq_some_iff hnames).mp hl
    exact (lookup?_eq_some_iff hnames').mpr (hperm.mem_iff.mpr hmem)
  | none =>
    have hnone := lookup?_eq_none_iff.mp hl
    rw [lookup?_eq_none_iff, (hperm.map _).mem_iff]
    exact hnone

/-- Values that are listed in another order are put into the same places. -/
theorem substitute_of_perm (hnames : (values.map (·.1)).Nodup) (hperm : values'.Perm values)
    (template : List Char) : substitute template values' = substitute template values := by
  refine List.flatMap_congr fun p _ => ?_
  cases p with
  | char c => rfl
  | group text => rw [Piece.fill, Piece.fill, lookup?_of_perm hnames hperm]

/-- The names, each with its own group as its value. -/
def ownGroups (names : List (List Char)) : List (List Char × List Char) :=
  names.map fun name => (name, (Piece.group name).text)

/-- Groups that are put into their own places leave the template as it is. -/
theorem substitute_ownGroups (names : List (List Char)) (template : List Char) :
    substitute template (ownGroups names) = template := by
  have hfill : ∀ p ∈ pieces template, p.fill (ownGroups names) = p.text := by
    intro p _
    cases p with
    | char c => rfl
    | group text =>
      rw [Piece.fill]
      cases hl : lookup? (ownGroups names) text with
      | none => rfl
      | some value =>
        obtain ⟨name, _, he⟩ := List.mem_map.mp (mem_of_lookup? hl)
        obtain ⟨rfl, rfl⟩ := Prod.mk.inj he
        rfl
  exact (List.flatMap_congr hfill).trans (flatMap_text_pieces template)

/-- Values with different names are put into a template at once: the result is what one reading of
the template writes, whatever braces the values bring and in whatever order they are listed; and
names that stand for their own groups leave every template as it is. -/
theorem substitution_is_simultaneous (hnames : (values.map (·.1)).Nodup) (template : List Char) :
    (∀ result, substitute template values = result ↔ Fills values template result) ∧
      (∀ values', values'.Perm values →
        substitute template values' = substitute template values) ∧
      ∀ names, substitute template (ownGroups names) = template :=
  ⟨fun _ => substitute_eq_iff hnames, fun _ hperm => substitute_of_perm hnames hperm template,
    fun names => substitute_ownGroups names template⟩

/-- Two values that look like the group of the other one. -/
def swappedValues : List (List Char × List Char) :=
  [("a".toList, "{b}".toList), ("b".toList, "{a}".toList)]

theorem substitution_is_simultaneous_of_swapped :
    (swappedValues.map (·.1)).Nodup ∧
      Fills swappedValues "/{a}/{b}{c}/\x7ba".toList "/{b}/{a}{c}/\x7ba".toList ∧
      swappedValues.reverse.Perm swappedValues ∧
      substitute "/{a}/{b}{c}/\x7ba".toList swappedValues.reverse = "/{b}/{a}{c}/\x7ba".toList ∧
      substitute "/{a}/{b}{c}/\x7ba".toList (ownGroups ["c".toList, "a".toList]) =
        "/{a}/{b}{c}/\x7ba".toList := by
  have hnames : (swappedValues.map (·.1)).Nodup := by decide
  have hperm := List.reverse_perm swappedValues
  have hresult : substitute "/{a}/{b}{c}/\x7ba".toList swappedValues =
      "/{b}/{a}{c}/\x7ba".toList := by
    decide +kernel
  obtain ⟨hreading, horder, hown⟩ :=
    substitution_is_simultaneous hnames "/{a}/{b}{c}/\x7ba".toList
  exact ⟨hnames, (hreading _).mp hresult, hperm, (horder _ hperm).trans hresult, hown _⟩

end RestClient.Template
