import RestClient.Proofs.Template.Cutting
import RestClient.Proofs.Text.Segments
import RestClient.Proofs.Url.Parts
import Mathlib.Data.List.Basic

/-!
# Templates with values in them

When values are put into a template, the groups that are listed give way and all other characters
stay. What the values do not contain is as often in the result as among the characters that stay;
values without slashes leave the segments of the path where they are.

## Main definitions

- `parts` — a template cut into listed groups and the characters that stay
- `literals` — the characters that stay
- `templateSegments` — the segments of the path of a template, groups and characters
- `IsDotSegment` — a segment that stands for a folder

## Main results

- `filter_substitute` — characters that values do not contain
- `segments_substitute` — the segments of a template with values in it
- `isDotSegment_fill_iff` — how a dot segment comes about
-/

namespace RestClient.Template

open Text (segments)

/-- What becomes of a piece: a group that is listed is one, all other text is characters. -/
def Piece.parts (values : List (List Char × List Char)) : Piece → List Piece
  | .char c => [.char c]
  | .group name =>
    if (lookup? values name).isSome then [.group name] else (Piece.group name).text.map .char

/-- The template cut into the groups that are listed and the characters that stay. -/
def parts (values : List (List Char × List Char)) (template : List Char) : List Piece :=
  (pieces template).flatMap (Piece.parts values)

/-- The characters among pieces. -/
def literals (ps : List Piece) : List Char :=
  ps.filterMap fun
    | .char c => some c
    | .group _ => none

@[simp] theorem literals_char (c : Char) (ps : List Piece) :
    literals (.char c :: ps) = c :: literals ps :=
  rfl

@[simp] theorem literals_group (name : List Char) (ps : List Piece) :
    literals (.group name :: ps) = literals ps :=
  rfl

variable {values : List (List Char × List Char)} {template : List Char} {ps : List Piece}

/-! ### Parts -/

/-- What leaves characters and groups that are not listed as they are is the same of a piece and of
what becomes of it. -/
theorem Piece.flatMap_parts {f : Piece → List Char} (hchar : ∀ c, f (.char c) = [c])
    (hgroup : ∀ name, lookup? values name = none → f (.group name) = (Piece.group name).text)
    (p : Piece) : (p.parts values).flatMap f = f p := by
  cases p with
  | char c => simp [Piece.parts]
  | group name =>
    rw [Piece.parts]
    split
    · simp
    · next hnone =>
      rw [hgroup name (Option.not_isSome_iff_eq_none.mp hnone), List.flatMap_map]
      simp only [hchar]
      exact List.flatMap_singleton' _

/-- A group that is listed becomes its value. -/
theorem Piece.fill_of_lookup? {name value : List Char} (h : lookup? values name = some value) :
    (Piece.group name).fill values = value := by
  rw [Piece.fill, h, Option.getD_some]

/-- No text of the template is lost in its parts. -/
theorem flatMap_text_parts : (parts values template).flatMap Piece.text = template := by
  rw [parts, List.flatMap_assoc]
  have hparts : ∀ p ∈ pieces template, (p.parts values).flatMap Piece.text = p.text :=
    fun p _ => p.flatMap_parts (fun _ => rfl) fun _ _ => rfl
  exact (List.flatMap_congr hparts).trans (flatMap_text_pieces template)

/-- The values go into the parts one by one. -/
theorem substitute_eq_flatMap_parts :
    substitute template values = (parts values template).flatMap (Piece.fill values) := by
  rw [parts, List.flatMap_assoc, substitute]
  refine (List.flatMap_congr fun p _ => p.flatMap_parts (fun _ => rfl) fun name hnone => ?_).symm
  rw [Piece.fill, hnone, Option.getD_none]

/-- A group among the parts is filled with a value that is listed. -/
theorem fill_of_group_mem_parts {name : List Char} (h : .group name ∈ parts values template) :
    ∃ entry ∈ values, lookup? values name = some entry.2 := by
  obtain ⟨p, -, hp⟩ := List.mem_flatMap.mp h
  cases p with
  | char c => simp [Piece.parts] at hp
  | group text =>
    rw [Piece.parts] at hp
    split at hp
    · next hsome =>
      obtain rfl : name = text := by simpa using hp
      obtain ⟨value, hvalue⟩ := Option.isSome_iff_exists.mp hsome
      exact ⟨(name, value), mem_of_lookup? hvalue, hvalue⟩
    · simp at hp

/-! ### Characters that values do not contain -/

/-- What the values do not contain is what stays, in the same order. -/
theorem filter_fill {p : Char → Bool}
    (hvalues : ∀ name, .group name ∈ ps → ∀ c ∈ (Piece.group name).fill values, p c = false) :
    (ps.flatMap (Piece.fill values)).filter p = (literals ps).filter p := by
  induction ps with
  | nil => rfl
  | cons q ps ih =>
    have ih := ih fun name hname => hvalues name (List.mem_cons_of_mem q hname)
    rw [List.flatMap_cons, List.filter_append, ih]
    cases q with
    | char c => rw [literals_char, ← List.singleton_append, List.filter_append]; rfl
    | group name =>
      have hnone : ((Piece.group name).fill values).filter p = [] := by
        rw [List.filter_eq_nil_iff]
        intro c hc
        simp [hvalues name List.mem_cons_self c hc]
      rw [literals_group, hnone, List.nil_append]

theorem filter_substitute {p : Char → Bool}
    (hvalues : ∀ entry ∈ values, ∀ c ∈ entry.2, p c = false) :
    (substitute template values).filter p = (literals (parts values template)).filter p := by
  rw [substitute_eq_flatMap_parts]
  refine filter_fill fun name hname => ?_
  obtain ⟨entry, hentry, hlookup⟩ := fill_of_group_mem_parts hname
  rw [Piece.fill_of_lookup? hlookup]
  exact hvalues entry hentry

theorem count_substitute {c : Char} (hvalues : ∀ entry ∈ values, c ∉ entry.2) :
    (substitute template values).count c = (literals (parts values template)).count c := by
  have hother : ∀ entry ∈ values, ∀ d ∈ entry.2, (d == c) = false := by
    intro entry hentry d hd
    rw [beq_eq_false_iff_ne]
    rintro rfl
    exact hvalues entry hentry hd
  rw [List.count_eq_countP, List.count_eq_countP, List.countP_eq_length_filter,
    List.countP_eq_length_filter, filter_substitute hother]

/-! ### Segments -/

/-- The segments of the path of a template: its parts up to the first question mark or hash sign
that stays, cut at the slashes that stay. -/
def templateSegments (values : List (List Char × List Char)) (template : List Char) :
    List (List Piece) :=
  segments (.char '/')
    ((parts values template).takeWhile fun p => p != .char '?' && p != .char '#')

/-- The characters that end a segment or the path. -/
def pathMarks : List Char :=
  ['/', '?', '#']

theorem fill_char_ne {c d : Char} (h : Piece.char c ≠ .char d) :
    d ∉ (Piece.char c).fill values := by
  have hne : c ≠ d := fun he => h (he ▸ rfl)
  simpa [Piece.fill] using Ne.symm hne

/-- What a part that is no mark becomes has no mark. -/
theorem not_mem_fill_of_ne (hvalues : ∀ entry ∈ values, ∀ c ∈ pathMarks, c ∉ entry.2) {p : Piece}
    (hp : p ∈ parts values template) {c : Char} (hc : c ∈ pathMarks) (hne : p ≠ .char c) :
    c ∉ p.fill values := by
  cases p with
  | char d => exact fill_char_ne hne
  | group name =>
    obtain ⟨entry, hentry, hlookup⟩ := fill_of_group_mem_parts hp
    rw [Piece.fill_of_lookup? hlookup]
    exact hvalues entry hentry c hc

theorem beforeQuery_substitute (hvalues : ∀ entry ∈ values, ∀ c ∈ pathMarks, c ∉ entry.2) :
    Url.beforeQuery (substitute template values) =
      ((parts values template).takeWhile fun p => p != .char '?' && p != .char '#').flatMap
        (Piece.fill values) := by
  rw [substitute_eq_flatMap_parts, Url.beforeQuery]
  apply Text.takeWhile_flatMap
  · intro p hp hgo c hc
    obtain ⟨hquestion, hhash⟩ : p ≠ .char '?' ∧ p ≠ .char '#' := by simpa using hgo
    have hquestion := not_mem_fill_of_ne hvalues hp (c := '?') (by decide) hquestion
    have hhash := not_mem_fill_of_ne hvalues hp (c := '#') (by decide) hhash
    simp only [Bool.and_eq_true, bne_iff_ne]
    exact ⟨fun he => hquestion (he ▸ hc), fun he => hhash (he ▸ hc)⟩
  · intro p _ hstop
    have hmark : p = .char '?' ∨ p = .char '#' := by
      rw [Bool.and_eq_false_iff] at hstop
      simpa using hstop
    rcases hmark with rfl | rfl
    · exact ⟨'?', [], rfl, rfl⟩
    · exact ⟨'#', [], rfl, rfl⟩

/-- Values without marks leave the segments where they are. -/
theorem segments_substitute (hvalues : ∀ entry ∈ values, ∀ c ∈ pathMarks, c ∉ entry.2) :
    segments '/' (Url.beforeQuery (substitute template values)) =
      (templateSegments values template).map (·.flatMap (Piece.fill values)) := by
  rw [beforeQuery_substitute hvalues, templateSegments]
  refine Text.segments_flatMap rfl fun p hp hne => ?_
  exact not_mem_fill_of_ne hvalues ((List.takeWhile_sublist _).subset hp) (by decide) hne

theorem mem_parts_of_mem_templateSegments {s : List Piece} {p : Piece}
    (hs : s ∈ templateSegments values template) (hp : p ∈ s) : p ∈ parts values template :=
  (List.takeWhile_sublist _).subset (Text.mem_of_mem_segments hs hp)

/-! ### Dot segments -/

/-- A segment that stands for its own folder or for the one above. -/
def IsDotSegment (segment : List Char) : Prop :=
  segment = ['.'] ∨ segment = ['.', '.']

instance : DecidablePred IsDotSegment := fun segment =>
  inferInstanceAs (Decidable (segment = ['.'] ∨ segment = ['.', '.']))

/-- A piece of a dot segment that is none itself is empty. -/
theorem IsDotSegment.eq_nil_of_infix {segment piece : List Char} (h : IsDotSegment segment)
    (hwithin : piece <:+: segment) (hpiece : ¬ IsDotSegment piece) : piece = [] := by
  have hdots : ∀ c ∈ piece, c = '.' := by
    intro c hc
    have hmem := hwithin.subset hc
    rcases h with rfl | rfl <;> simpa using hmem
  have hlength : piece.length ≤ 2 := by
    have hle := hwithin.length_le
    rcases h with rfl | rfl <;> simp at hle <;> omega
  rw [List.eq_replicate_of_mem hdots] at hpiece ⊢
  have hcases : piece.length = 0 ∨ piece.length = 1 ∨ piece.length = 2 := by omega
  rcases hcases with hn | hn | hn
  · rw [hn]
    rfl
  · exact absurd (.inl (by rw [hn]; rfl)) hpiece
  · exact absurd (.inr (by rw [hn]; rfl)) hpiece

/-- Empty values leave the characters that stay. -/
theorem flatMap_fill_eq_literals
    (h : ∀ name, .group name ∈ ps → (Piece.group name).fill values = []) :
    ps.flatMap (Piece.fill values) = literals ps := by
  induction ps with
  | nil => rfl
  | cons p ps ih =>
    rw [List.flatMap_cons, ih fun name hname => h name (List.mem_cons_of_mem p hname)]
    cases p with
    | char c => rfl
    | group name => rw [h name List.mem_cons_self, List.nil_append, literals_group]

/-- A dot segment comes of a segment whose characters are one already, with nothing put in. -/
theorem isDotSegment_fill_iff
    (hvalues : ∀ name, .group name ∈ ps → ¬ IsDotSegment ((Piece.group name).fill values)) :
    IsDotSegment (ps.flatMap (Piece.fill values)) ↔
      IsDotSegment (literals ps) ∧
        ∀ name, .group name ∈ ps → (Piece.group name).fill values = [] := by
  constructor
  · intro h
    have hempty : ∀ name, .group name ∈ ps → (Piece.group name).fill values = [] := by
      intro name hname
      have hwithin : (Piece.group name).fill values <:+: ps.flatMap (Piece.fill values) := by
        obtain ⟨front, back, rfl⟩ := List.append_of_mem hname
        exact ⟨front.flatMap (Piece.fill values), back.flatMap (Piece.fill values), by simp⟩
      exact h.eq_nil_of_infix hwithin (hvalues name hname)
    exact ⟨flatMap_fill_eq_literals hempty ▸ h, hempty⟩
  · rintro ⟨h, hempty⟩
    rwa [flatMap_fill_eq_literals hempty]

end RestClient.Template
