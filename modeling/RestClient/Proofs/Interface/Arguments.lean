import Mathlib.Data.Option.Basic
import RestClient.Interface.HeadersAttribute
import RestClient.Interface.RoleArguments
import RestClient.Proofs.Code.ExprPlaces
import RestClient.Proofs.Outcome

/-!
# Places in the arguments of attributes

What is read in the arguments of an attribute is at places of the attribute, and so is what is
complained about: string literals, items of roles, and faults.

## Main definitions

- `RoleItem.place`, `RoleArguments.PlacedIn` — where the arguments of a role are

## Main results

- `ends_headersOfAttribute`, `ends_roleOfAttribute` — where complaints about headers and roles point
-/

namespace RestClient

open Code (Span Tokens SyntaxFault Attribute MetaItem MetaForm Parser Nested Place Cursor)
open Code.Parser (Meets)
open Outcome (Ends)

variable {P : Span → Prop}

/-! ### String literals -/

theorem meets_stringWithSpan {region trees : Tokens} :
    Meets stringWithSpan region trees fun taken _ r => Place taken r.2 := by
  refine .rest_bind ?_
  split
  · next text span after =>
    split
    · refine Code.Parser.meets_skip.bind fun taken _ _ _ _ h => .pure ?_
      obtain ⟨-, rfl⟩ := h
      exact (Place.tree (t := .literal text span) (List.mem_singleton_self _)).left
    · exact .expected
  · exact .expected

theorem placed_in_list {d : Code.Delimiter} {trees : Tokens} {group s : Span}
    (hform : MetaForm.PlacedIn P (.list d trees group)) (h : s = group.lastChar ∨ Place trees s) :
    P s := by
  rcases h with rfl | hplace
  · exact hform _ (.closing List.mem_cons_self)
  · exact hform _ (.inside List.mem_cons_self hplace)

/-- Where something is read in the list of an attribute, faults are at places of the attribute. -/
theorem ends_runAll {α : Type} {p : Parser α} {Q : Tokens → Tokens → α → Prop} {R : α → Prop}
    {d : Code.Delimiter} {trees : Tokens} {group : Span}
    (hform : MetaForm.PlacedIn P (.list d trees group)) (hp : Meets p trees trees Q)
    (hQ : ∀ written a, Q trees written a → R a) :
    Ends (fun fault => P fault.span) R (Code.Parser.runAll p trees group.lastChar) := by
  cases hrun : Code.Parser.runAll p trees group.lastChar with
  | error fault => exact placed_in_list hform (hp.place_of_runAll hrun)
  | ok a =>
    obtain ⟨written, hq⟩ := hp.of_runAll hrun
    exact hQ written a hq

theorem ends_headersOfLiterals {anchor : Anchor} {literals : List (String × Span)}
    (h : ∀ r ∈ literals, P r.2) :
    Ends (fun d : Diagnostic => P d.span) (fun _ => True) (headersOfLiterals anchor literals) := by
  induction literals with
  | nil => trivial
  | cons r rest ih =>
    obtain ⟨text, span⟩ := r
    have hrest := ih fun r hr => h r (List.mem_cons_of_mem _ hr)
    rw [headersOfLiterals]
    cases HeaderLiteral.parse? text with
    | none => exact h (text, span) List.mem_cons_self
    | some header =>
      cases hread : headersOfLiterals anchor rest with
      | error d =>
        rw [hread] at hrest
        exact hrest
      | ok headers => trivial

theorem ends_headersOfAttribute {a : Attribute} (h : a.PlacedIn P) :
    Ends (fun d : Diagnostic => P d.span) (fun _ => True) (headersOfAttribute a) := by
  have hform := h.form
  unfold headersOfAttribute
  cases hlist : a.item.form with
  | path => exact h.span
  | nameValue value => exact h.span
  | list d trees group =>
    rw [hlist] at hform
    have hread := ends_runAll (R := fun literals => ∀ r ∈ literals, P r.2) hform
      (Meets.commaList Prod.snd fun _ => meets_stringWithSpan) fun _ literals hall r hr =>
        placed_in_list hform (.inr (hall r hr))
    dsimp only
    cases hrun : Code.Parser.runAll (Code.Parser.commaList stringWithSpan) trees group.lastChar with
    | error fault =>
      rw [hrun] at hread
      exact hread
    | ok literals =>
      rw [hrun] at hread
      cases literals with
      | nil => exact h.span
      | cons r rest => exact ends_headersOfLiterals hread

/-! ### The arguments of roles -/

/-- The place of an item. -/
def RoleItem.place : RoleItem → Span
  | literal _ s | named _ s | namedOther s | encoded s | encodedIs _ s | encodedOther s
  | unknown s => s

/-- The arguments are at places that satisfy `P`. -/
structure RoleArguments.PlacedIn (P : Span → Prop) (a : RoleArguments) : Prop where
  name : ∀ name s, a.name = some (name, s) → P s
  encoded : ∀ s, a.encoded = some s → P s

theorem RoleArguments.ends_add {a : RoleArguments} {item : RoleItem} (ha : a.PlacedIn P)
    (hitem : P item.place) :
    Ends (fun e : Violation × Span => P e.2) (RoleArguments.PlacedIn P) (a.add item) := by
  have hname : ∀ name s, P s →
      Ends (fun e : Violation × Span => P e.2) (RoleArguments.PlacedIn P) (a.setName name s) := by
    intro name s hs
    unfold RoleArguments.setName
    split
    · exact hs
    · split
      · exact hs
      · refine ⟨fun name' s' h => ?_, ha.encoded⟩
        obtain ⟨-, rfl⟩ := Prod.mk.inj (Option.some.inj h)
        exact hs
  have hencoded : ∀ s, P s → RoleArguments.PlacedIn P { a with encoded := some s } :=
    fun s hs => ⟨ha.name, fun s' h => Option.some.inj h ▸ hs⟩
  cases item with
  | literal name s => exact hname name s hitem
  | named name s => exact hname name s hitem
  | namedOther s => exact hitem
  | encoded s => exact hencoded s hitem
  | encodedIs flag s =>
    cases flag with
    | true => exact hencoded s hitem
    | false => exact ha
  | encodedOther s => exact hitem
  | unknown s => exact hitem

theorem RoleArguments.ends_ofItems {items : List RoleItem} (h : ∀ item ∈ items, P item.place) :
    Ends (fun e : Violation × Span => P e.2) (RoleArguments.PlacedIn P)
      (RoleArguments.ofItems items) :=
  .foldlM ⟨fun _ _ h => (nomatch h), fun _ h => (nomatch h)⟩ fun item hitem _ ha =>
    RoleArguments.ends_add ha (h item hitem)

/-- An item that is no literal is at one of three places: all of it, its first tree, or its
value. -/
theorem RoleItem.place_ofMeta {item : MetaItem} (hall : P (Code.spanOf item.tokens))
    (hfirst : P (Code.spanOf (item.tokens.take 1))) (hform : item.form.PlacedIn P) :
    P (RoleItem.ofMeta item).place := by
  unfold RoleItem.ofMeta
  dsimp only
  split
  · exact hfirst
  · next value _ hvalue =>
    rw [hvalue] at hform
    split
    · exact hform
    · exact hform
  · next value _ hvalue =>
    rw [hvalue] at hform
    split
    · exact hfirst
    · exact hform
  · exact hall

theorem meets_roleItem {g : Nested} [g.IsLocated] {region trees : Tokens} :
    Meets (roleItem g) region trees fun taken _ item => Place taken item.place := by
  have hmeta : Meets (do return RoleItem.ofMeta (← Code.Parser.metaItem g)) region trees
      fun taken _ item => Place taken item.place := by
    refine Code.Parser.meets_metaItem.bind_pure fun taken written item _ _ h => ?_
    obtain ⟨⟨hends, hne⟩, rfl, hform⟩ := h
    exact RoleItem.place_ofMeta (hends.place hne) (hends.place_first hne) hform
  refine .rest_bind ?_
  split
  · next text span after =>
    split
    · refine Code.Parser.meets_skip.bind fun taken _ _ _ _ h => .pure ?_
      obtain ⟨-, rfl⟩ := h
      exact (Place.tree (t := .literal text span) (List.mem_singleton_self _)).left
    · exact hmeta
  · exact hmeta

/-- A fault in trees or at the end of them. -/
def FaultIn (region : Tokens) (scope : Span) (fault : SyntaxFault) : Prop :=
  fault.span = scope ∨ Place region fault.span

/-- Some items have been read up to a state: they are at places of the trees, and so is what has
been left over in groups. -/
structure ReadUpTo (region : Tokens) (scope : Span) (items : List RoleItem) (c : Cursor) :
    Prop where
  rest : c.rest <:+ region
  scope : c.scope = scope
  leftover : ∀ fault, c.leftover = some fault → Place region fault.span
  items : ∀ item ∈ items, Place region item.place

namespace ReadUpTo

variable {region : Tokens} {scope : Span} {items : List RoleItem} {c : Cursor}

theorem cons (h : ReadUpTo region scope items c) {item : RoleItem}
    (hitem : Place region item.place) : ReadUpTo region scope (item :: items) c :=
  ⟨h.rest, h.scope, h.leftover, fun _ hmem =>
    (List.mem_cons.mp hmem).elim (fun heq => heq ▸ hitem) (h.items _)⟩

/-- A parser goes on from such a state to such a state. -/
theorem ends_run {α : Type} {p : Parser α} {Q : Tokens → Tokens → α → Prop}
    (h : ReadUpTo region scope items c) (hp : Meets p region c.rest Q) :
    Ends (FaultIn region scope) (fun r => ReadUpTo region scope items r.2 ∧
      ∃ taken written, taken.Sublist region ∧ Q taken written r.1) (p.run c) := by
  obtain ⟨herror, hok⟩ := hp h.rest c rfl
  cases hrun : p.run c with
  | error fault =>
    have hfault := herror fault hrun
    rw [h.scope] at hfault
    exact hfault
  | ok r =>
    obtain ⟨a, after⟩ := r
    obtain ⟨taken, written, hmoved, hq⟩ := hok a after hrun
    have hrest : taken ++ after.rest <:+ region := hmoved.rest ▸ h.rest
    refine ⟨⟨(List.suffix_append _ _).trans hrest, hmoved.scope.trans h.scope, ?_, h.items⟩,
      taken, written, (List.sublist_append_left _ _).trans hrest.sublist, hq⟩
    exact fun fault hfault => (hmoved.leftover fault hfault).elim (h.leftover fault) id

end ReadUpTo

theorem ends_get {α : Type} {E : SyntaxFault → Prop} {Q : α × Cursor → Prop} {c : Cursor}
    {f : Cursor → Parser α} (h : Ends E Q ((f c).run c)) : Ends E Q ((do f (← get)).run c) :=
  h

theorem ends_set {α : Type} {E : SyntaxFault → Prop} {Q : α × Cursor → Prop} {c after : Cursor}
    {p : Parser α} (h : Ends E Q (p.run after)) : Ends E Q ((do set after; p).run c) :=
  h

theorem ends_atEnd {α : Type} {E : SyntaxFault → Prop} {Q : α × Cursor → Prop} {c : Cursor}
    {p q : Parser α} (hp : Ends E Q (p.run c)) (hq : Ends E Q (q.run c)) :
    Ends E Q ((do if ← Code.Parser.atEnd then p else q).run c) := by
  show Ends E Q ((if c.rest.isEmpty then p else q).run c)
  cases c.rest.isEmpty with
  | true => exact hp
  | false => exact hq

/-- An iteration ends as its last step does, if every step keeps an invariant. -/
theorem ends_iterate {σ β : Type} {step : σ → Parser (σ ⊕ β)} {I : σ → Cursor → Prop}
    {E : SyntaxFault → Prop} {R : β × Cursor → Prop}
    (hfail : ∀ s c, I s c → Ends E R ((Code.Parser.fail .nestingTooDeep).run c))
    (hstep : ∀ s c, I s c → Ends E
      (fun r => match r.1 with | .inl s => I s r.2 | .inr b => R (b, r.2)) ((step s).run c))
    {s : σ} {c : Cursor} (h : I s c) : Ends E R ((Code.Parser.iterate step s).run c) := by
  have hall : ∀ n s c, I s c → Ends E R ((Code.Parser.iterateAtMost step n s).run c) := by
    intro n
    induction n with
    | zero => exact hfail
    | succ n ih =>
      intro s c h
      refine (hstep s c h).bind fun r hr => ?_
      obtain ⟨r, after⟩ := r
      cases r with
      | inl s => exact ih s after hr
      | inr b => exact hr
  exact hall _ s c h

/-- What has been read in a list: the items, the fault that stopped the reading, and the state. -/
structure ReadIn (region : Tokens) (scope : Span)
    (r : (List RoleItem × Option SyntaxFault) × Cursor) : Prop where
  items : ∀ item ∈ r.1.1, Place region item.place
  fault : ∀ fault, r.1.2 = some fault → FaultIn region scope fault
  leftover : ∀ fault, r.2.leftover = some fault → Place region fault.span

theorem ReadUpTo.readIn {region : Tokens} {scope : Span} {items : List RoleItem} {c : Cursor}
    (h : ReadUpTo region scope items c) {fault : Option SyntaxFault}
    (hfault : ∀ f, fault = some f → FaultIn region scope f) :
    ReadIn region scope ((items.reverse, fault), c) :=
  ⟨fun item hitem => h.items item (List.mem_reverse.mp hitem), hfault, h.leftover⟩

theorem ends_roleItems {g : Nested} [g.IsLocated] {region : Tokens} {scope : Span}
    {c : Cursor} (h : ReadUpTo region scope [] c) :
    Ends (FaultIn region scope) (ReadIn region scope) ((roleItems g).run c) := by
  refine ends_iterate (I := ReadUpTo region scope) (fun done c h => ?_) (fun done c h => ?_) h
  · exact (h.ends_run (Meets.fail (Q := fun _ _ _ => False))).mono (fun _ => id)
      fun r ⟨_, _, _, _, hfalse⟩ => hfalse.elim
  · refine ends_atEnd (h.readIn fun _ hnone => nomatch hnone) ?_
    have hread := h.ends_run (meets_roleItem (g := g))
    refine ends_get ?_
    cases hrun : StateT.run (roleItem g) c with
    | error fault =>
      rw [hrun] at hread
      exact h.readIn fun _ hsome => Option.some.inj hsome ▸ hread
    | ok r =>
      obtain ⟨item, after⟩ := r
      rw [hrun] at hread
      obtain ⟨hafter, taken, _, htaken, hitem⟩ := hread
      have hall := hafter.cons (hitem.mono htaken)
      have hcomma := hall.ends_run (@Code.Parser.meets_punct region after.rest ",")
      refine ends_set (ends_atEnd (hall.readIn fun _ hnone => nomatch hnone) (ends_get ?_))
      cases hrun' : StateT.run (Code.Parser.punct ",") after with
      | error fault =>
        rw [hrun'] at hcomma
        exact hall.readIn fun _ hsome => Option.some.inj hsome ▸ hcomma
      | ok r =>
        rw [hrun'] at hcomma
        exact hcomma.1

/-- Where the arguments of a role are read in the list of an attribute, what is complained about is
at a place of the attribute. -/
theorem RoleArguments.ends_read {d : Code.Delimiter} {trees : Tokens} {group : Span}
    (hform : MetaForm.PlacedIn P (.list d trees group)) :
    Ends (fun e : Violation × Span => P e.2) (RoleArguments.PlacedIn P)
      (RoleArguments.read trees group.lastChar) := by
  have hstart : ReadUpTo trees group.lastChar [] (Code.Parser.start trees group.lastChar) :=
    ⟨List.suffix_refl trees, rfl, fun _ h => (nomatch h), fun _ h => (nomatch h)⟩
  have hread := ends_roleItems (g := .ofTokens trees) hstart
  unfold RoleArguments.read
  dsimp only
  cases hrun : StateT.run (roleItems (.ofTokens trees))
      (Code.Parser.start trees group.lastChar) with
  | error fault =>
    rw [hrun] at hread
    exact placed_in_list hform hread
  | ok r =>
    obtain ⟨⟨items, fault⟩, c⟩ := r
    rw [hrun] at hread
    have harguments := RoleArguments.ends_ofItems fun item hitem =>
      placed_in_list hform (.inr (hread.items item hitem))
    dsimp only
    cases hof : RoleArguments.ofItems items with
    | error e =>
      rw [hof] at harguments
      exact harguments
    | ok arguments =>
      rw [hof] at harguments
      dsimp only
      split
      · next f hsome =>
        rcases (Option.orElse_eq_some _ _ _).mp hsome with h | ⟨-, h⟩
        · exact placed_in_list hform (hread.fault f h)
        · exact placed_in_list hform (.inr (hread.leftover f h))
      · exact harguments

theorem ends_roleOfArguments {kind : RoleKind} {arguments : RoleArguments} {parameter : String}
    {anchor : Anchor} (harguments : arguments.PlacedIn P) (hanchor : P anchor.span) :
    Ends (fun d : Diagnostic => P d.span) (fun _ => True)
      (Role.ofArguments kind arguments parameter anchor) := by
  unfold Role.ofArguments
  dsimp only
  split
  · next name place hname =>
    exact harguments.name name place (Option.eq_some_of_filter_eq_some hname)
  · split
    · next place hencoded =>
      exact harguments.encoded place (Option.eq_some_of_filter_eq_some hencoded)
    · cases kind with
      | header =>
        cases arguments.name with
        | none => exact hanchor
        | some r => trivial
      | _ => trivial

theorem ends_roleOfAttribute {a : Attribute} (kind : RoleKind) (parameter : String)
    (h : a.PlacedIn P) :
    Ends (fun d : Diagnostic => P d.span) (fun _ => True) (Role.ofAttribute a kind parameter) := by
  have hform := h.form
  unfold Role.ofAttribute
  cases hlist : a.item.form with
  | path => exact ends_roleOfArguments ⟨fun _ _ h => (nomatch h), fun _ h => (nomatch h)⟩ h.span
  | nameValue value =>
    rw [hlist] at hform
    exact hform
  | list d trees group =>
    rw [hlist] at hform
    have hread := RoleArguments.ends_read hform
    dsimp only
    cases hrun : RoleArguments.read trees group.lastChar with
    | error e =>
      rw [hrun] at hread
      exact hread
    | ok arguments =>
      rw [hrun] at hread
      exact ends_roleOfArguments hread h.span

end RestClient
