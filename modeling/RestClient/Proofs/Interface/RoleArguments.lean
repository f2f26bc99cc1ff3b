import RestClient.Proofs.Code.Taking
import RestClient.Proofs.Interface.Arguments
import RestClient.Proofs.Interface.Inputs
import RestClient.Proofs.Text.Trim

/-!
# What the arguments of a role mean

The arguments of a role are a list with commas. An item says a name, or that values are escaped, or
nothing; what a list says is what its items say, in whichever order they stand. A list is refused
where it says two names or a blank one, and a role where it says what the kind has no use for.

## Main definitions

- `RoleItem.Spelled` — how items are written
- `RoleItem.content` — what an item says
- `RoleItem.NamesOnce`, `RoleArguments.meaning` — which lists are accepted, and what they say
- `ListsItems` — the items in an attribute

## Main results

- `RoleArguments.read_eq` — a list is read as its items
- `RoleArguments.ofItems_perm` — the order of the items does not matter
- `role_arguments_mean` — what lists of items mean, and the roles that attributes give
-/

namespace RestClient

open Code (Span TokenTree Tokens Attribute Nested)
open Code.Parser (Takes Breaks Separated IsValue)

/-! ### Items -/

/-- How an item is written: a string literal, by itself or as the value of `name`; or `encoded`, by
itself or with a truth value. -/
inductive RoleItem.Spelled : Tokens → RoleItem → Prop
  | literal {tree : TokenTree} {name : String} (h : IsValue tree (.string name)) :
      Spelled [tree] (.literal name tree.span)
  | named {tree : TokenTree} {name : String} (word place : Span) (joint : Bool)
      (h : IsValue tree (.string name)) :
      Spelled [.ident "name" word, .punct '=' joint place, tree] (.named name tree.span)
  | encoded (word : Span) : Spelled [.ident "encoded" word] (.encoded word)
  | encodedIs {tree : TokenTree} {flag : Bool} (word place : Span) (joint : Bool)
      (h : IsValue tree (.bool flag)) :
      Spelled [.ident "encoded" word, .punct '=' joint place, tree] (.encodedIs flag word)

/-- What an item says: a name, and whether values are escaped. -/
def RoleItem.content : RoleItem → Option String × Bool
  | literal name _ | named name _ => (some name, false)
  | encoded _ | encodedIs true _ => (none, true)
  | _ => (none, false)

/-- The names that items say. -/
def RoleItem.names (items : List RoleItem) : List String :=
  items.filterMap fun item => item.content.1

/-- Whether an item says that values are escaped. -/
def RoleItem.escapes (items : List RoleItem) : Bool :=
  items.any fun item => item.content.2

/-- There is one name at most, and it is not blank. -/
def RoleItem.NamesOnce (items : List RoleItem) : Prop :=
  (RoleItem.names items).length ≤ 1 ∧
    ∀ name ∈ RoleItem.names items, ¬ ∀ c ∈ name.toList, Text.isBlank c = true

/-- What arguments say: a name, and whether values are escaped. -/
def RoleArguments.meaning (a : RoleArguments) : Option String × Bool :=
  (a.name.map Prod.fst, a.encoded.isSome)

theorem takes_roleItem (n : Nat) {front after : Tokens} {item : RoleItem}
    (h : RoleItem.Spelled front item) (hafter : Breaks after) :
    Takes (roleItem (.ofDepth (n + 2))) front after item := by
  refine .rest_bind ?_
  cases h with
  | literal h =>
    cases h with
    | string span h =>
      rw [List.singleton_append]
      dsimp only
      rw [h]
      exact Takes.bind_last (.skip rfl) (.pure _ _)
  | named word place joint h =>
    exact (Code.Parser.takes_metaItem_value n rfl h hafter).bind_last (.pure _ _)
  | encoded word =>
    exact (Code.Parser.takes_metaItem_path _ rfl hafter).bind_last (.pure _ _)
  | encodedIs word place joint h =>
    exact (Code.Parser.takes_metaItem_value n rfl h hafter).bind_last (.pure _ _)

theorem RoleItem.Spelled.ne_nil {front : Tokens} {item : RoleItem}
    (h : RoleItem.Spelled front item) : front ≠ [] := by
  cases h <;> exact List.cons_ne_nil _ _

theorem takes_roleItems (n : Nat) {trees : Tokens} {items : List RoleItem}
    (h : Separated RoleItem.Spelled trees items) :
    Takes (roleItems (.ofDepth (n + 2))) trees [] (items, none) := by
  refine .iterate_separated (fun items => (items, none)) ⟨fun done => ?_,
    fun done front item h => ?_, fun done front item joint span after h => ?_⟩ h
  · exact .atEnd_bind (.pure _ _)
  · refine .atEnd_bind (.ite_neg (by simpa using h.ne_nil) ?_)
    refine .attempt_last (takes_roleItem n h .nil) (fun before c hrun => by rw [hrun]) ?_
    exact .atEnd_bind (.pure _ _)
  · have hcomma := Code.Parser.takes_comma joint span after
    refine .atEnd_bind (.ite_neg (by simp) ?_)
    refine .attempt (takes_roleItem n h (.comma joint span after))
      (fun before c hrun => by rw [hrun]) (.atEnd_bind ?_)
    exact .attempt_last hcomma (fun before c hrun => by rw [hrun]) (.pure _ _)

/-- A list of items is read as what its items mean together. -/
theorem RoleArguments.read_eq {trees : Tokens} {items : List RoleItem} (scope : Span)
    (h : Separated RoleItem.Spelled trees items) :
    RoleArguments.read trees scope = RoleArguments.ofItems items := by
  obtain ⟨n, hdepth⟩ := Code.Parser.exists_ofDepth trees
  have hrun := takes_roleItems n h (Code.Parser.start trees scope) (List.append_nil trees).symm
  unfold RoleArguments.read
  rw [hdepth, hrun]
  dsimp only
  cases RoleArguments.ofItems items <;> rfl

/-! ### What items say together -/

/-- The item says something that a role can use. -/
def RoleItem.IsMeant : RoleItem → Prop
  | namedOther _ | encodedOther _ | unknown _ => False
  | _ => True

theorem RoleItem.Spelled.isMeant {front : Tokens} {item : RoleItem}
    (h : RoleItem.Spelled front item) : item.IsMeant := by
  cases h <;> trivial

theorem RoleItem.isMeant_of_separated {trees : Tokens} {items : List RoleItem}
    (h : Separated RoleItem.Spelled trees items) : ∀ item ∈ items, item.IsMeant := by
  induction h with
  | nil => exact List.forall_mem_nil _
  | last h => exact List.forall_mem_singleton.mpr h.isMeant
  | cons joint span h hrest ih => exact List.forall_mem_cons.mpr ⟨h.isMeant, ih⟩

theorem RoleArguments.setName_eq_ok {a b : RoleArguments} {name : String} {span : Span} :
    a.setName name span = .ok b ↔ a.name = none ∧ (¬ ∀ c ∈ name.toList, Text.isBlank c = true) ∧
      b = { a with name := some (name, span) } := by
  rw [← Text.trim_isEmpty_iff]
  unfold RoleArguments.setName
  cases a.name with
  | some named => simp
  | none =>
    by_cases hblank : (Text.trim name).isEmpty = true
    · simp [hblank]
    · simp [hblank, eq_comm]

/-- An item that says a name is one more name. -/
theorem RoleArguments.add_named {item : RoleItem} {name : String} (a : RoleArguments)
    (h : item.content.1 = some name) :
    ∃ span, a.add item = a.setName name span ∧ item.content.2 = false := by
  cases item with
  | literal name' span | named name' span =>
    obtain rfl : name' = name := Option.some.inj h
    exact ⟨span, rfl, rfl⟩
  | encodedIs flag span => cases flag <;> cases h
  | _ => cases h

/-- An item that says no name is accepted, whatever has been said. -/
theorem RoleArguments.add_unnamed {item : RoleItem} (a : RoleArguments) (hitem : item.IsMeant)
    (h : item.content.1 = none) : ∃ b, a.add item = .ok b ∧ b.name = a.name ∧
      b.encoded.isSome = (a.encoded.isSome || item.content.2) := by
  cases item with
  | literal name span | named name span => cases h
  | encoded span => exact ⟨_, rfl, rfl, by simp [RoleItem.content]⟩
  | encodedIs flag span =>
    cases flag with
    | true => exact ⟨_, rfl, rfl, by simp [RoleItem.content]⟩
    | false => exact ⟨_, rfl, rfl, by simp [RoleItem.content]⟩
  | _ => exact hitem.elim

theorem RoleItem.names_cons (item : RoleItem) (items : List RoleItem) :
    RoleItem.names (item :: items) = item.content.1.toList ++ RoleItem.names items := by
  cases h : item.content.1 <;> simp [RoleItem.names, h]

/-- The items behind one that says a name may say none. -/
theorem RoleItem.namesOnce_cons {item : RoleItem} {items : List RoleItem} {name : String}
    (h : item.content.1 = some name) : RoleItem.NamesOnce (item :: items) ↔
      (¬ ∀ c ∈ name.toList, Text.isBlank c = true) ∧ RoleItem.names items = [] := by
  unfold RoleItem.NamesOnce
  rw [RoleItem.names_cons, h]
  cases RoleItem.names items with
  | nil => simp
  | cons second rest => simp

theorem RoleArguments.exists_foldlM_add {items : List RoleItem}
    (h : ∀ item ∈ items, item.IsMeant) (a : RoleArguments) :
    (∃ b, items.foldlM RoleArguments.add a = .ok b) ↔
      (a.name = none ∨ RoleItem.names items = []) ∧ RoleItem.NamesOnce items := by
  induction items generalizing a with
  | nil =>
    have hnil : RoleItem.NamesOnce [] := ⟨Nat.zero_le _, List.forall_mem_nil _⟩
    exact ⟨fun _ => ⟨.inr rfl, hnil⟩, fun _ => ⟨a, rfl⟩⟩
  | cons item items ih =>
    obtain ⟨hitem, hitems⟩ := List.forall_mem_cons.mp h
    simp only [Outcome.foldlM_cons_eq_ok]
    cases hcontent : item.content.1 with
    | none =>
      obtain ⟨c, hadd, hname, -⟩ := a.add_unnamed hitem hcontent
      have hnames : RoleItem.names (item :: items) = RoleItem.names items := by
        rw [RoleItem.names_cons, hcontent]
        rfl
      have hrest := ih hitems c
      rw [hname] at hrest
      unfold RoleItem.NamesOnce at hrest ⊢
      rw [hnames, ← hrest]
      simp [hadd]
    | some name =>
      obtain ⟨span, hadd, -⟩ := a.add_named hcontent
      rw [RoleItem.namesOnce_cons hcontent]
      constructor
      · rintro ⟨b, c, hc, hb⟩
        obtain ⟨hname, hblank, rfl⟩ := RoleArguments.setName_eq_ok.mp (hadd ▸ hc)
        obtain ⟨hrest, -⟩ := (ih hitems _).mp ⟨b, hb⟩
        exact ⟨.inl hname, hblank, hrest.resolve_left (Option.some_ne_none _)⟩
      · rintro ⟨hname, hblank, hrest⟩
        have hfree : a.name = none := hname.resolve_right (by simp [RoleItem.names_cons, hcontent])
        have honce : RoleItem.NamesOnce items := by
          unfold RoleItem.NamesOnce
          rw [hrest]
          exact ⟨Nat.zero_le _, List.forall_mem_nil _⟩
        have hc : a.setName name span = .ok { a with name := some (name, span) } :=
          RoleArguments.setName_eq_ok.mpr ⟨hfree, hblank, rfl⟩
        obtain ⟨b, hb⟩ := (ih hitems _).mpr ⟨.inr hrest, honce⟩
        exact ⟨b, _, hadd ▸ hc, hb⟩

theorem RoleArguments.meaning_of_foldlM_add {items : List RoleItem}
    (h : ∀ item ∈ items, item.IsMeant) {a b : RoleArguments}
    (hb : items.foldlM RoleArguments.add a = .ok b) :
    b.meaning = (a.meaning.1 <|> (RoleItem.names items).head?,
      a.meaning.2 || RoleItem.escapes items) := by
  induction items generalizing a with
  | nil =>
    obtain rfl : a = b := Except.ok.inj hb
    simp [RoleItem.names, RoleItem.escapes]
  | cons item items ih =>
    obtain ⟨hitem, hitems⟩ := List.forall_mem_cons.mp h
    obtain ⟨c, hc, hrest⟩ := Outcome.foldlM_cons_eq_ok.mp hb
    rw [ih hitems hrest, RoleItem.names_cons]
    have hescapes : RoleItem.escapes (item :: items) = (item.content.2 || RoleItem.escapes items) :=
      List.any_cons
    rw [hescapes]
    unfold RoleArguments.meaning
    cases hcontent : item.content.1 with
    | none =>
      obtain ⟨d, hadd, hname, hencoded⟩ := a.add_unnamed hitem hcontent
      obtain rfl : d = c := Except.ok.inj (hadd.symm.trans hc)
      rw [hname, hencoded, Bool.or_assoc]
      rfl
    | some name =>
      obtain ⟨span, hadd, hflag⟩ := a.add_named hcontent
      obtain ⟨hname, -, rfl⟩ := RoleArguments.setName_eq_ok.mp (hadd ▸ hc)
      rw [hname, hflag]
      simp

/-- A list of items is accepted where they say one name at most, and not a blank one. -/
theorem RoleArguments.exists_ofItems {items : List RoleItem} (h : ∀ item ∈ items, item.IsMeant) :
    (∃ b, RoleArguments.ofItems items = .ok b) ↔ RoleItem.NamesOnce items :=
  (RoleArguments.exists_foldlM_add h .empty).trans (and_iff_right (.inl rfl))

theorem RoleArguments.meaning_of_ofItems {items : List RoleItem} {b : RoleArguments}
    (h : ∀ item ∈ items, item.IsMeant) (hb : RoleArguments.ofItems items = .ok b) :
    b.meaning = ((RoleItem.names items).head?, RoleItem.escapes items) := by
  rw [RoleArguments.meaning_of_foldlM_add h hb]
  rfl

theorem RoleArguments.isSome_of_ofItems {items : List RoleItem} {b : RoleArguments}
    (h : ∀ item ∈ items, item.IsMeant) (hb : RoleArguments.ofItems items = .ok b) :
    (b.name.isSome = true ↔ RoleItem.names items ≠ []) ∧
      b.encoded.isSome = RoleItem.escapes items := by
  obtain ⟨hname, hencoded⟩ := Prod.mk.inj (RoleArguments.meaning_of_ofItems h hb)
  refine ⟨?_, hencoded⟩
  rw [← Option.isSome_map (f := Prod.fst), hname, List.isSome_head?]

/-! ### Order -/

/-- Items say the same in another order. -/
theorem RoleItem.content_perm {items items' : List RoleItem}
    (h : (items.map RoleItem.content).Perm (items'.map RoleItem.content)) :
    (RoleItem.names items).Perm (RoleItem.names items') ∧
      RoleItem.escapes items = RoleItem.escapes items' := by
  constructor
  · have hnames := h.filterMap Prod.fst
    rwa [List.filterMap_map, List.filterMap_map] at hnames
  · have hescapes := h.any_eq (f := Prod.snd)
    rwa [List.any_map, List.any_map] at hescapes

theorem RoleItem.namesOnce_of_perm {items items' : List RoleItem}
    (h : (items.map RoleItem.content).Perm (items'.map RoleItem.content))
    (honce : RoleItem.NamesOnce items) : RoleItem.NamesOnce items' := by
  obtain ⟨hnames, -⟩ := RoleItem.content_perm h
  exact ⟨hnames.length_eq ▸ honce.1, fun name hname => honce.2 name (hnames.mem_iff.mpr hname)⟩

theorem RoleItem.head?_names_of_perm {items items' : List RoleItem}
    (h : (items.map RoleItem.content).Perm (items'.map RoleItem.content))
    (honce : RoleItem.NamesOnce items) :
    (RoleItem.names items).head? = (RoleItem.names items').head? := by
  obtain ⟨hnames, -⟩ := RoleItem.content_perm h
  have hlength := honce.1
  cases hitems : RoleItem.names items with
  | nil =>
    rw [hitems] at hnames
    rw [hnames.nil_eq]
  | cons name rest =>
    rw [hitems] at hnames hlength
    obtain rfl : rest = [] := by
      apply List.eq_nil_of_length_eq_zero
      simp only [List.length_cons] at hlength
      omega
    rw [List.perm_singleton.mp hnames.symm]

theorem RoleArguments.ofItems_perm {items items' : List RoleItem}
    (h : ∀ item ∈ items, item.IsMeant) (h' : ∀ item ∈ items', item.IsMeant)
    (hperm : (items.map RoleItem.content).Perm (items'.map RoleItem.content)) :
    (RoleArguments.ofItems items).toOption.map RoleArguments.meaning =
      (RoleArguments.ofItems items').toOption.map RoleArguments.meaning := by
  by_cases honce : RoleItem.NamesOnce items
  · have honce' := RoleItem.namesOnce_of_perm hperm honce
    obtain ⟨b, hb⟩ := (RoleArguments.exists_ofItems h).mpr honce
    obtain ⟨b', hb'⟩ := (RoleArguments.exists_ofItems h').mpr honce'
    rw [hb, hb']
    show some b.meaning = some b'.meaning
    rw [RoleArguments.meaning_of_ofItems h hb, RoleArguments.meaning_of_ofItems h' hb',
      RoleItem.head?_names_of_perm hperm honce, (RoleItem.content_perm hperm).2]
  · have hrefused : ∀ {own : List RoleItem}, (∀ item ∈ own, item.IsMeant) →
        ¬ RoleItem.NamesOnce own → (RoleArguments.ofItems own).toOption = none := by
      intro own hown hn
      cases hread : RoleArguments.ofItems own with
      | error e => rfl
      | ok b => exact absurd ((RoleArguments.exists_ofItems hown).mp ⟨b, hread⟩) hn
    rw [hrefused h honce, hrefused h' fun honce' =>
      honce (RoleItem.namesOnce_of_perm hperm.symm honce')]

/-! ### Roles -/

/-- The kinds whose contributions go under a name. -/
theorem RoleKind.acceptsName_iff {kind : RoleKind} : kind.acceptsName = true ↔
    kind ∈ [RoleKind.path, .query, .field, .part, .header] := by
  cases kind <;> decide

/-- The kinds whose values may be escaped already. -/
theorem RoleKind.acceptsEncoded_iff {kind : RoleKind} : kind.acceptsEncoded = true ↔
    kind ∈ [RoleKind.path, .query, .queryMap, .field, .fieldMap] := by
  cases kind <;> decide

/-- A role is refused a name or a mark that its kind has no use for, and a header needs a name. -/
theorem Role.exists_ofArguments {kind : RoleKind} {arguments : RoleArguments} {parameter : String}
    {anchor : Anchor} : (∃ role, Role.ofArguments kind arguments parameter anchor = .ok role) ↔
      (arguments.name.isSome → kind.acceptsName) ∧
      (arguments.encoded.isSome → kind.acceptsEncoded) ∧
      (kind = .header → arguments.name.isSome) := by
  obtain ⟨name, encoded⟩ := arguments
  unfold Role.ofArguments
  cases kind <;> cases name <;> cases encoded <;>
    simp [RoleKind.acceptsName, RoleKind.acceptsEncoded, Option.filter]

theorem Role.of_ofArguments {kind : RoleKind} {arguments : RoleArguments} {parameter : String}
    {anchor : Anchor} {role : Role}
    (h : Role.ofArguments kind arguments parameter anchor = .ok role) :
    role.name? = (if kind.acceptsName then some (arguments.meaning.1.getD parameter) else none) ∧
      role.encoded = arguments.meaning.2 := by
  obtain ⟨name, encoded⟩ := arguments
  unfold Role.ofArguments at h
  cases kind <;> cases name <;> cases encoded <;>
    simp [RoleKind.acceptsName, RoleKind.acceptsEncoded, Option.filter] at h <;> subst h <;>
    exact ⟨rfl, rfl⟩

/-- The items in an attribute: none where its path stands alone, or those of its list. -/
inductive ListsItems (a : Attribute) : List RoleItem → Prop
  | path (h : a.item.form = .path) : ListsItems a []
  | list {d : Code.Delimiter} {trees : Tokens} {group : Span} {items : List RoleItem}
      (h : a.item.form = .list d trees group) (hitems : Separated RoleItem.Spelled trees items) :
      ListsItems a items

section

variable {a : Attribute} {items : List RoleItem} {kind : RoleKind} {parameter : String}
  {role : Role}

/-- The role of an attribute is that of what its items mean. -/
theorem Role.ofAttribute_eq_ok (h : ListsItems a items) :
    Role.ofAttribute a kind parameter = .ok role ↔ ∃ arguments,
      RoleArguments.ofItems items = .ok arguments ∧
        Role.ofArguments kind arguments parameter (.on a.span) = .ok role := by
  unfold Role.ofAttribute
  cases h with
  | path h =>
    rw [h]
    exact ⟨fun hrole => ⟨.empty, rfl, hrole⟩, fun ⟨b, hb, hrole⟩ => Except.ok.inj hb ▸ hrole⟩
  | list h hitems =>
    rw [h]
    dsimp only
    rw [RoleArguments.read_eq _ hitems]
    cases RoleArguments.ofItems items with
    | error e => simp
    | ok arguments => simp

theorem ListsItems.isMeant (h : ListsItems a items) : ∀ item ∈ items, item.IsMeant := by
  cases h with
  | path h => exact List.forall_mem_nil _
  | list h hitems => exact RoleItem.isMeant_of_separated hitems

theorem Role.exists_ofAttribute (h : ListsItems a items) :
    (∃ role, Role.ofAttribute a kind parameter = .ok role) ↔ RoleItem.NamesOnce items ∧
      (RoleItem.names items ≠ [] → kind.acceptsName) ∧
      (RoleItem.escapes items → kind.acceptsEncoded) ∧
      (kind = .header → RoleItem.names items ≠ []) := by
  constructor
  · rintro ⟨role, hrole⟩
    obtain ⟨b, hb, hrole⟩ := (Role.ofAttribute_eq_ok h).mp hrole
    obtain ⟨hname, hencoded⟩ := RoleArguments.isSome_of_ofItems h.isMeant hb
    have honce := (RoleArguments.exists_ofItems h.isMeant).mp ⟨b, hb⟩
    have hfits := Role.exists_ofArguments.mp ⟨role, hrole⟩
    rw [hname, hencoded] at hfits
    exact ⟨honce, hfits⟩
  · rintro ⟨honce, hfits⟩
    obtain ⟨b, hb⟩ := (RoleArguments.exists_ofItems h.isMeant).mpr honce
    obtain ⟨hname, hencoded⟩ := RoleArguments.isSome_of_ofItems h.isMeant hb
    rw [← hname, ← hencoded] at hfits
    obtain ⟨role, hrole⟩ := Role.exists_ofArguments.mpr hfits
    exact ⟨role, (Role.ofAttribute_eq_ok h).mpr ⟨b, hb, hrole⟩⟩

theorem Role.of_ofAttribute (h : ListsItems a items)
    (hrole : Role.ofAttribute a kind parameter = .ok role) :
    role.name? = (if kind.acceptsName
        then some ((RoleItem.names items).head?.getD parameter) else none) ∧
      role.encoded = RoleItem.escapes items := by
  obtain ⟨b, hb, hrole⟩ := (Role.ofAttribute_eq_ok h).mp hrole
  have hmeaning := RoleArguments.meaning_of_ofItems h.isMeant hb
  have hall := Role.of_ofArguments hrole
  rwa [hmeaning] at hall

end

/-- A list of items is accepted where they say one name at most, and not a blank one; it says that
name, and that values are escaped where an item says so, whatever their order. An attribute with
such a list gives a role where the kind has a use for what is said, and a name where it needs one;
the role has the kind, the name, or that of the parameter, and the mark. -/
theorem role_arguments_mean :
    (∀ trees items scope, Separated RoleItem.Spelled trees items →
      ((∃ arguments, RoleArguments.read trees scope = .ok arguments) ↔ RoleItem.NamesOnce items) ∧
      ∀ arguments, RoleArguments.read trees scope = .ok arguments →
        arguments.meaning = ((RoleItem.names items).head?, RoleItem.escapes items)) ∧
    (∀ trees items scope trees' items' scope', Separated RoleItem.Spelled trees items →
      Separated RoleItem.Spelled trees' items' →
      (items.map RoleItem.content).Perm (items'.map RoleItem.content) →
      (RoleArguments.read trees scope).toOption.map RoleArguments.meaning =
        (RoleArguments.read trees' scope').toOption.map RoleArguments.meaning) ∧
    ∀ a items kind parameter, ListsItems a items →
      ((∃ role, Role.ofAttribute a kind parameter = .ok role) ↔ RoleItem.NamesOnce items ∧
        (RoleItem.names items ≠ [] → kind ∈ [RoleKind.path, .query, .field, .part, .header]) ∧
        (RoleItem.escapes items →
          kind ∈ [RoleKind.path, .query, .queryMap, .field, .fieldMap]) ∧
        (kind = .header → RoleItem.names items ≠ [])) ∧
      ∀ role, Role.ofAttribute a kind parameter = .ok role → role.kind = kind ∧
        role.name? = (if kind ∈ [RoleKind.path, .query, .field, .part, .header]
          then some ((RoleItem.names items).head?.getD parameter) else none) ∧
        role.encoded = RoleItem.escapes items := by
  refine ⟨fun trees items scope h => ?_,
    fun trees items scope trees' items' scope' h h' hperm => ?_,
    fun a items kind parameter h => ?_⟩
  · have hmeant := RoleItem.isMeant_of_separated h
    rw [RoleArguments.read_eq scope h]
    exact ⟨RoleArguments.exists_ofItems hmeant,
      fun arguments => RoleArguments.meaning_of_ofItems hmeant⟩
  · rw [RoleArguments.read_eq scope h, RoleArguments.read_eq scope' h']
    exact RoleArguments.ofItems_perm (RoleItem.isMeant_of_separated h)
      (RoleItem.isMeant_of_separated h') hperm
  · simp only [← RoleKind.acceptsName_iff, ← RoleKind.acceptsEncoded_iff]
    exact ⟨Role.exists_ofAttribute h, fun role hrole =>
      ⟨Role.ofAttribute_kind hrole, Role.of_ofAttribute h hrole⟩⟩

/-- The arguments `encoded, "q",`. -/
def escapedName : Tokens :=
  [.ident "encoded" .nowhere, .punct ',' false .nowhere, .literal "\"q\"" .nowhere,
    .punct ',' false .nowhere]

/-- The arguments `name = "q", encoded = true`. -/
def namedEscape : Tokens :=
  [.ident "name" .nowhere, .punct '=' false .nowhere, .literal "\"q\"" .nowhere,
    .punct ',' false .nowhere, .ident "encoded" .nowhere, .punct '=' false .nowhere,
    .ident "true" .nowhere]

/-- The attribute `#[query(encoded, "q",)]`. -/
def escapedQuery : Attribute :=
  ⟨⟨Code.Parser.namePath "query", .list .parenthesis escapedName .nowhere, []⟩, []⟩

theorem role_arguments_mean_query :
    (RoleArguments.read escapedName .nowhere).toOption.map RoleArguments.meaning =
        (RoleArguments.read namedEscape .nowhere).toOption.map RoleArguments.meaning ∧
      (∃ arguments, RoleArguments.read escapedName .nowhere = .ok arguments ∧
        arguments.meaning = (some "q", true)) ∧
      ∃ role, Role.ofAttribute escapedQuery .query "text" = .ok role ∧ role.name? = some "q" := by
  have hvalue : Code.stringValue? "\"q\"".toList = some (['q'], []) := by decide
  have hname : IsValue (.literal "\"q\"" .nowhere) (.string "q") := .string .nowhere hvalue
  have hitems : Separated RoleItem.Spelled escapedName [.encoded .nowhere, .literal "q" .nowhere] :=
    .cons false .nowhere (RoleItem.Spelled.encoded .nowhere)
      (.cons false .nowhere (RoleItem.Spelled.literal hname) .nil)
  have hitems' : Separated RoleItem.Spelled namedEscape
      [.named "q" .nowhere, .encodedIs true .nowhere] :=
    .cons false .nowhere (RoleItem.Spelled.named .nowhere .nowhere false hname)
      (.last (RoleItem.Spelled.encodedIs .nowhere .nowhere false (.bool true .nowhere)))
  have honce : RoleItem.NamesOnce [.encoded .nowhere, .literal "q" .nowhere] := by
    refine ⟨Nat.le_refl _, fun name hmem hblank => ?_⟩
    obtain rfl : name = "q" := List.mem_singleton.mp hmem
    exact absurd (hblank 'q' (by simp)) (by decide)
  obtain ⟨hread, horder, hrole⟩ := role_arguments_mean
  refine ⟨horder _ _ .nowhere _ _ .nowhere hitems hitems' (.swap _ _ _), ?_, ?_⟩
  · obtain ⟨haccepts, hmeaning⟩ := hread _ _ .nowhere hitems
    obtain ⟨arguments, harguments⟩ := haccepts.mpr honce
    exact ⟨arguments, harguments, hmeaning arguments harguments⟩
  · obtain ⟨haccepts, hmeaning⟩ := hrole escapedQuery _ .query "text" (.list rfl hitems)
    obtain ⟨role, h⟩ := haccepts.mpr ⟨honce, by decide, by decide, by decide⟩
    exact ⟨role, h, (hmeaning role h).2.1⟩

end RestClient
