import RestClient.Proofs.Client.Reporting

/-!
# What is left of a trait

The trait that is written out again is the declared one without the markers of its methods and of
their parameters. Attributes on the trait itself and on receivers stay as they are, markers or not,
and so does everything that is no attribute.

## Main definitions

- `Holder` — what an attribute can stand on
- `TraitDecl.attributeLists` — the attributes of a trait with what they stand on
- `TraitDecl.bare` — a trait without these attributes

## Main results

- `item_keeps_foreign_attributes` — which attributes are left
- `marker_stays_on_receiver` — markers that are left
-/

namespace RestClient

open Code (Attribute Input Signature Method TraitItem TraitDecl codeOf)

/-- What an attribute of a trait can stand on. -/
inductive Holder where
  | trait
  | method
  | receiver
  | parameter
  deriving DecidableEq, Repr

/-- The markers on methods and on parameters are taken away. -/
def Holder.losesMarkers : Holder → Bool
  | trait | receiver => false
  | method | parameter => true

/-- What is left of the attributes on a holder. -/
def Holder.kept (holder : Holder) (attributes : List Attribute) : List Attribute :=
  if holder.losesMarkers then foreignAttributes attributes else attributes

/-! ### Attributes and the rest -/

namespace Code

/-- The attributes of an input with what they stand on. -/
def Input.attributeList : Input → Holder × List Attribute
  | receiver r => (.receiver, r.attributes)
  | typed p => (.parameter, p.attributes)

/-- An input without attributes. -/
def Input.bare : Input → Input
  | receiver r => .receiver { r with attributes := [] }
  | typed p => .typed { p with attributes := [] }

/-- The attributes on the inputs of a signature, in their order. -/
def Signature.attributeLists (s : Signature) : List (Holder × List Attribute) :=
  s.inputs.map fun (input, _) => input.attributeList

/-- A signature without attributes on its inputs. -/
def Signature.bare (s : Signature) : Signature :=
  { s with inputs := s.inputs.map fun (input, comma) => (input.bare, comma) }

/-- The attributes on a method and its inputs, in their order. -/
def TraitItem.attributeLists : TraitItem → List (Holder × List Attribute)
  | method m => (.method, m.attributes) :: m.signature.attributeLists
  | other _ => []

/-- An item without attributes. What is no method only has its tokens. -/
def TraitItem.bare : TraitItem → TraitItem
  | method m => .method { m with attributes := [], signature := m.signature.bare }
  | other tokens => .other tokens

/-- The attributes on a trait, on its methods and on their inputs, in their order. -/
def TraitDecl.attributeLists (t : TraitDecl) : List (Holder × List Attribute) :=
  (.trait, t.attributes) :: t.items.flatMap TraitItem.attributeLists

/-- A trait without attributes. -/
def TraitDecl.bare (t : TraitDecl) : TraitDecl :=
  { t with attributes := [], items := t.items.map TraitItem.bare }

/-- No attribute on a trait, on its methods or on their inputs is a marker. -/
def TraitDecl.IsUnmarked (t : TraitDecl) : Prop :=
  ∀ holder attributes, (holder, attributes) ∈ t.attributeLists →
    ∀ a ∈ attributes, markerOf a = none

end Code

/-! ### Level by level -/

theorem attributeList_cleanInput (i : Input) :
    (cleanInput i).attributeList =
      (i.attributeList.1, i.attributeList.1.kept i.attributeList.2) := by
  cases i <;> rfl

theorem bare_cleanInput (i : Input) : (cleanInput i).bare = i.bare := by
  cases i <;> rfl

theorem attributeLists_cleanSignature (s : Signature) :
    (cleanSignature s).attributeLists =
      s.attributeLists.map fun (holder, attributes) => (holder, holder.kept attributes) := by
  simp only [Signature.attributeLists, cleanSignature, List.map_map]
  exact List.map_congr_left fun (i, _) _ => attributeList_cleanInput i

theorem bare_cleanSignature (s : Signature) : (cleanSignature s).bare = s.bare := by
  simp only [Signature.bare, cleanSignature, List.map_map, Function.comp_def, bare_cleanInput]

theorem attributeLists_cleanItem (item : TraitItem) :
    (cleanItem item).attributeLists =
      item.attributeLists.map fun (holder, attributes) => (holder, holder.kept attributes) := by
  cases item with
  | other tokens => rfl
  | method m =>
    rw [cleanItem, TraitItem.attributeLists, attributeLists_cleanSignature]
    rfl

theorem bare_cleanItem (item : TraitItem) : (cleanItem item).bare = item.bare := by
  cases item with
  | other tokens => rfl
  | method m =>
    rw [cleanItem, TraitItem.bare, bare_cleanSignature]
    rfl

theorem attributeLists_cleanTrait (t : TraitDecl) :
    (cleanTrait t).attributeLists =
      t.attributeLists.map fun (holder, attributes) => (holder, holder.kept attributes) := by
  simp only [TraitDecl.attributeLists, cleanTrait, List.map_cons, List.flatMap_map,
    attributeLists_cleanItem, List.map_flatMap]
  rfl

theorem bare_cleanTrait (t : TraitDecl) : (cleanTrait t).bare = t.bare := by
  simp only [TraitDecl.bare, cleanTrait, List.map_map, Function.comp_def, bare_cleanItem]

/-! ### Markers that are left -/

theorem markerOf_of_mem_foreignAttributes {a : Attribute} {attributes : List Attribute}
    (h : a ∈ foreignAttributes attributes) : markerOf a = none :=
  Option.isNone_iff_eq_none.mp (List.mem_filter.mp h).2

theorem Holder.kept_unmarked_iff (holder : Holder) (attributes : List Attribute) :
    (∀ a ∈ holder.kept attributes, markerOf a = none) ↔
      (holder.losesMarkers = false → ∀ a ∈ attributes, markerOf a = none) := by
  unfold kept
  cases holder.losesMarkers with
  | false => simp
  | true => simpa using fun a => markerOf_of_mem_foreignAttributes

/-- Markers are left exactly where they are not taken away. -/
theorem cleanTrait_isUnmarked_iff (t : TraitDecl) :
    (cleanTrait t).IsUnmarked ↔ ∀ holder attributes, (holder, attributes) ∈ t.attributeLists →
      holder.losesMarkers = false → ∀ a ∈ attributes, markerOf a = none := by
  rw [TraitDecl.IsUnmarked, attributeLists_cleanTrait]
  constructor
  · intro h holder attributes hm
    exact (holder.kept_unmarked_iff attributes).mp
      (h holder _ (List.mem_map.mpr ⟨(holder, attributes), hm, rfl⟩))
  · intro h holder kept hm
    obtain ⟨⟨_, attributes⟩, hlist, he⟩ := List.mem_map.mp hm
    obtain ⟨rfl, rfl⟩ := Prod.mk.inj he
    exact (Holder.kept_unmarked_iff _ attributes).mpr (h _ attributes hlist)

/-- The trait of an interface is the declared one, with the attributes on its methods and on their
parameters that are no markers, and with all attributes on itself and on its receivers. Therefore
it has no marker left exactly if there was none on the trait or on a receiver. This trait is what a
client is written with. -/
theorem item_keeps_foreign_attributes {config : ClientConfig} {t : TraitDecl}
    {d : InterfaceDescriptor} (h : InterfaceDescriptor.ofTrait config t = .ok d) :
    d.item.bare = t.bare ∧
      d.item.attributeLists =
        t.attributeLists.map (fun (holder, attributes) => (holder, holder.kept attributes)) ∧
      (d.item.IsUnmarked ↔ ∀ holder attributes, (holder, attributes) ∈ t.attributeLists →
        holder = .trait ∨ holder = .receiver → ∀ a ∈ attributes, markerOf a = none) ∧
      ∀ p, ClientPlan.ofInterface d = .ok p →
        p.items.head? = some (Emission.marked "allow" ["async_fn_in_trait"] ++
          codeOf d.item.tokens) := by
  have hitem := item_of_ofTrait h
  refine ⟨?_, ?_, ?_, ?_⟩
  · rw [hitem, bare_cleanTrait]
  · rw [hitem, attributeLists_cleanTrait]
  · rw [hitem, cleanTrait_isUnmarked_iff]
    have hholder : ∀ holder : Holder,
        holder.losesMarkers = false ↔ holder = .trait ∨ holder = .receiver := by
      intro holder
      cases holder <;> decide
    simp only [hholder]
  · intro p hp
    obtain ⟨rfl, -⟩ := ClientPlan.ofInterface_eq_ok hp
    rfl

/-- A trait with documentation beside its markers. -/
def documentedAnnouncer : TraitDecl :=
  { announcer with attributes := [flagAttribute "doc"] }

/-- The interface of that trait. -/
def documentedInterface : InterfaceDescriptor :=
  { announcerInterface with item := cleanTrait documentedAnnouncer }

theorem item_keeps_foreign_attributes_announcer :
    InterfaceDescriptor.ofTrait plainConfig documentedAnnouncer = .ok documentedInterface ∧
      documentedInterface.item.bare = documentedAnnouncer.bare ∧
      documentedInterface.item.attributeLists =
        [(.trait, [flagAttribute "doc"]), (.method, [flagAttribute "doc"]), (.receiver, []),
          (.parameter, []), (.parameter, []), (.parameter, [])] ∧
      documentedInterface.item.IsUnmarked := by
  have hd : InterfaceDescriptor.ofTrait plainConfig documentedAnnouncer =
      .ok documentedInterface := by rfl
  obtain ⟨hbare, hlists, hunmarked, -⟩ := item_keeps_foreign_attributes hd
  refine ⟨hd, hbare, hlists.trans rfl, hunmarked.mpr ?_⟩
  intro holder attributes hm hholder a ha
  have hlist : (holder, attributes) = (.trait, [flagAttribute "doc"]) ∨
      (holder, attributes) = (.receiver, []) := by
    rcases List.mem_cons.mp hm with he | hm
    · exact .inl he
    · rcases hholder with rfl | rfl <;>
        simp [documentedAnnouncer, announcer, announce, TraitItem.attributeLists,
          Signature.attributeLists, Input.attributeList] at hm
      exact .inr (by rw [hm])
  rcases hlist with he | he
  · obtain ⟨-, rfl⟩ := Prod.mk.inj he
    obtain rfl : a = flagAttribute "doc" := by simpa using ha
    rfl
  · obtain ⟨-, rfl⟩ := Prod.mk.inj he
    cases ha

/-- A trait that is accepted is written out with the marker on itself and the one on the receiver
of its method. -/
theorem marker_stays_on_receiver :
    (Code.Tokens.read? ("#[get(\"t\")] trait A \x7b #[get(\"a\")] " ++
          "async fn f(#[path] &self) -> Result<()>; \x7d")).map
        (fun item => (TraitDecl.parse item).toOption.map fun t =>
          (InterfaceDescriptor.ofTrait plainConfig t).map fun d => d.item.code) =
      some (some (.ok ["#", "[", "get", "(", "\"t\"", ")", "]", "trait", "A", "\x7b",
        "async", "fn", "f", "(", "#", "[", "path", "]", "&", "self", ")", "-", ">", "Result",
        "<", "(", ")", ">", ";", "\x7d"])) := by
  decide +kernel

end RestClient
