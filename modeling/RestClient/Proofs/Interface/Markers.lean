import RestClient.Interface.MethodAnalysis
import RestClient.Proofs.Outcome

/-!
# Markers among attributes

The markers of a method are collected attribute by attribute. What has been collected in the end is
what the attributes name, in their order; a method has one verb and at most one encoding.

## Main definitions

- `verbsOf`, `encodingsOf`, `roleKindsOf` — what attributes name
- `ListsHeaders` — the literal headers of attributes
- `CollectedFrom` — what the collected markers have to do with the attributes
-/

namespace RestClient

open Code (Span Attribute)

/-- The verb that a marker names. -/
def Marker.verb? : Marker → Option Verb
  | verb v => some v
  | _ => none

/-- The role that a marker names. -/
def Marker.role? : Marker → Option RoleKind
  | role kind => some kind
  | _ => none

/-- The verbs that attributes name. -/
def verbsOf (attributes : List Attribute) : List Verb :=
  attributes.filterMap fun a => (markerOf a).bind Marker.verb?

/-- The encodings that attributes ask for. -/
def encodingsOf (attributes : List Attribute) : List Encoding :=
  attributes.filterMap fun a => (markerOf a).bind Marker.encoding?

/-- The roles that attributes name. -/
def roleKindsOf (attributes : List Attribute) : List RoleKind :=
  attributes.filterMap fun a => (markerOf a).bind Marker.role?

/-- The attributes that list headers, in order, list these headers. -/
def ListsHeaders (attributes : List Attribute) (headers : List PlacedHeader) : Prop :=
  ∃ groups, List.Forall₂ (fun a group => headersOfAttribute a = .ok group)
    (attributes.filter fun a => markerOf a == some .headers) groups ∧ headers = groups.flatten

/-- An encoding that attributes agree on. -/
def AgreeOn (encodings : List Encoding) (encoding : Encoding) : Prop :=
  (encodings = [] ∧ encoding = .none) ∨ (encodings ≠ [] ∧ ∀ e ∈ encodings, e = encoding)

theorem ListsHeaders.nil : ListsHeaders [] [] :=
  ⟨[], .nil, rfl⟩

theorem ListsHeaders.append {as bs : List Attribute} {hs ks : List PlacedHeader}
    (ha : ListsHeaders as hs) (hb : ListsHeaders bs ks) : ListsHeaders (as ++ bs) (hs ++ ks) := by
  obtain ⟨gs, hgs, rfl⟩ := ha
  obtain ⟨ls, hls, rfl⟩ := hb
  refine ⟨gs ++ ls, ?_, ?_⟩
  · rw [List.filter_append]
    exact List.rel_append hgs hls
  · rw [List.flatten_append]

theorem ListsHeaders.of_ne {a : Attribute} (h : markerOf a ≠ some .headers) :
    ListsHeaders [a] [] := by
  refine ⟨[], ?_, rfl⟩
  rw [List.filter_cons_of_neg (by simpa using h)]
  exact .nil

theorem ListsHeaders.of_eq {a : Attribute} {headers : List PlacedHeader}
    (hm : markerOf a = some .headers) (h : headersOfAttribute a = .ok headers) :
    ListsHeaders [a] headers := by
  refine ⟨[headers], ?_, by simp⟩
  rw [List.filter_cons_of_pos (by simp [hm])]
  exact .cons h .nil

/-! ### The collected markers -/

/-- The markers `after` are `before` and what `attributes` say. -/
structure CollectedFrom (attributes : List Attribute) (before after : MethodMarkers) : Prop where
  verbs : after.verbs.map VerbMarker.verb = before.verbs.map VerbMarker.verb ++ verbsOf attributes
  encodings : after.encodings.map Prod.fst =
    before.encodings.map Prod.fst ++ encodingsOf attributes
  headers : ∃ new, ListsHeaders attributes new ∧ after.headers = before.headers ++ new

theorem CollectedFrom.nil (m : MethodMarkers) : CollectedFrom [] m m where
  verbs := by simp [verbsOf]
  encodings := by simp [encodingsOf]
  headers := ⟨[], .nil, by simp⟩

theorem CollectedFrom.trans {as bs : List Attribute} {l m n : MethodMarkers}
    (h : CollectedFrom as l m) (h' : CollectedFrom bs m n) : CollectedFrom (as ++ bs) l n where
  verbs := by rw [h'.verbs, h.verbs, verbsOf, verbsOf, verbsOf, List.filterMap_append,
    List.append_assoc]
  encodings := by rw [h'.encodings, h.encodings, encodingsOf, encodingsOf, encodingsOf,
    List.filterMap_append, List.append_assoc]
  headers := by
    obtain ⟨hs, hl, he⟩ := h.headers
    obtain ⟨ks, hk, he'⟩ := h'.headers
    exact ⟨hs ++ ks, hl.append hk, by rw [he', he, List.append_assoc]⟩

/-- One attribute adds what it says. -/
theorem MethodMarkers.add_collected {name : Span} {m m' : MethodMarkers} {a : Attribute}
    (h : m.add name a = .ok m') : CollectedFrom [a] m m' := by
  unfold MethodMarkers.add at h
  cases hm : markerOf a with
  | none =>
    obtain rfl : m = m' := by simpa [hm] using h
    exact ⟨by simp [verbsOf, hm], by simp [encodingsOf, hm], [], .of_ne (by simp [hm]), by simp⟩
  | some marker =>
    cases marker with
    | verb v =>
      simp only [hm] at h
      obtain ⟨template, _, rfl⟩ := Outcome.map_eq_ok.mp h
      exact ⟨by simp [verbsOf, hm, Marker.verb?], by simp [encodingsOf, hm, Marker.encoding?],
        [], .of_ne (by simp [hm]), by simp⟩
    | headers =>
      simp only [hm] at h
      obtain ⟨headers, hh, rfl⟩ := Outcome.map_eq_ok.mp h
      exact ⟨by simp [verbsOf, hm, Marker.verb?], by simp [encodingsOf, hm, Marker.encoding?],
        headers, .of_eq hm hh, rfl⟩
    | role kind => simp [hm, broken] at h
    | formUrlEncoded | multipart =>
      simp only [hm, Marker.encoding?] at h
      cases hf : a.item.form with
      | path =>
        simp only [hf, Except.ok.injEq] at h
        subst h
        exact ⟨by simp [verbsOf, hm, Marker.verb?], by simp [encodingsOf, hm, Marker.encoding?],
          [], .of_ne (by simp [hm]), by simp⟩
      | list | nameValue => simp [hf, broken] at h

theorem MethodMarkers.foldlM_add_collected {name : Span} {attributes : List Attribute}
    {m m' : MethodMarkers} (h : attributes.foldlM (MethodMarkers.add name) m = .ok m') :
    CollectedFrom attributes m m' := by
  refine Outcome.foldlM_related (R := CollectedFrom) CollectedFrom.nil ?_ h
  intro a rest m n m' ha hrest
  exact (add_collected ha).trans hrest

/-! ### The one verb and the one encoding -/

theorem MethodMarkers.verb_eq_ok {name : Span} {m : MethodMarkers} {v : VerbMarker}
    (h : m.verb name = .ok v) : m.verbs = [v] := by
  unfold MethodMarkers.verb at h
  split at h
  · simp [broken] at h
  · cases hv : m.verbs with
    | nil => simp [hv, broken] at h
    | cons first rest =>
      cases rest with
      | nil => simpa [hv] using h
      | cons second rest => simp [hv, broken] at h

theorem MethodMarkers.encoding_eq_ok {name : Span} {m : MethodMarkers} {encoding : Encoding}
    (h : m.encoding name = .ok encoding) : AgreeOn (m.encodings.map Prod.fst) encoding := by
  unfold MethodMarkers.encoding at h
  cases he : m.encodings with
  | nil =>
    have hnone : Encoding.none = encoding := by simpa [he] using h
    exact .inl ⟨rfl, hnone.symm⟩
  | cons first rest =>
    simp only [he] at h
    split at h
    · simp [broken] at h
    · next hfind =>
      obtain rfl : first.1 = encoding := by simpa using h
      refine .inr ⟨by simp, ?_⟩
      have hall : ∀ e ∈ rest, e.1 = first.1 := by simpa using List.find?_eq_none.mp hfind
      intro e hm
      rcases List.mem_cons.mp hm with rfl | hm
      · rfl
      · obtain ⟨placed, hp, rfl⟩ := List.mem_map.mp hm
        exact hall placed hp

end RestClient
