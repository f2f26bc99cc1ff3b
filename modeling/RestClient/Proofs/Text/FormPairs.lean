import RestClient.Proofs.Text.Segments
import RestClient.Proofs.Text.Escaping

/-!
# Pairs that are read back

A form is read by its marks: ampersands part the pairs, the first equals sign of a pair parts its
name from its value. An escaped text has neither of them, so that pairs that are written with
escapes are read as they were.

## Main definitions

- `formMarks` — the characters with a meaning around the pairs of a form
- `readPairs?` — the pairs that a form stands for
- `writtenPair` — a pair as it is written with escapes

## Main results

- `readPairs?_written` — pairs that are written are read back
-/

namespace RestClient.Text

/-! ### Reading -/

/-- A name or a value of a form as a text. -/
def readFormText? (octets : Octets) : Option String :=
  textOf? (unescape (spaced octets))

/-- The pair that a piece of a form stands for. Without an equals sign it is all name. -/
def readPair? (piece : Octets) : Option (String × String) :=
  match readFormText? (piece.takeWhile (· != 0x3d)),
      readFormText? ((piece.dropWhile (· != 0x3d)).drop 1) with
  | some name, some value => some (name, value)
  | _, _ => none

/-- The pairs of a form from left to right. Empty pieces are left out. -/
def readPairs? (form : Octets) : Option (List (String × String)) :=
  ((segments 0x26 form).filter (!·.isEmpty)).mapM readPair?

/-! ### Marks -/

/-- The characters that part pairs from each other, names from values, and a query from what stands
around it. -/
def formMarks : List Char :=
  ['&', '=', '?', '#']

/-- An escaped text has no mark. -/
theorem not_mem_formMarks_of_mem_escapeForm {c : Char} {cs : List Char} (h : c ∈ escapeForm cs) :
    c ∉ formMarks := by
  obtain ⟨b, _, hb⟩ := List.mem_flatMap.mp h
  split at hb
  · next hstands =>
    obtain rfl : c = charOfOctet b := by simpa using hb
    have hall : ∀ b, standsInForm b → charOfOctet b ∉ formMarks :=
      forall_octet (by decide +kernel)
    exact hall b hstands
  split at hb
  · obtain rfl : c = '+' := by simpa using hb
    decide
  · rcases eq_percent_or_digit_of_mem_percentOctet hb with rfl | ⟨i, rfl⟩
    · decide
    · have hdigits : ∀ i : Fin 16, upperHexDigit i.val ∉ formMarks := by decide
      exact hdigits i

/-- A pair as it is written with escapes. -/
def writtenPair (pair : String × String) : List Char :=
  escapeForm pair.1.toList ++ '=' :: escapeForm pair.2.toList

theorem not_mem_writtenPair {c : Char} (hc : c ∈ formMarks) (hne : c ≠ '=')
    (pair : String × String) : c ∉ writtenPair pair := by
  intro h
  simp only [writtenPair, List.mem_append, List.mem_cons] at h
  rcases h with h | h | h
  · exact not_mem_formMarks_of_mem_escapeForm h hc
  · exact hne h
  · exact not_mem_formMarks_of_mem_escapeForm h hc

/-! ### Reading what is written -/

theorem readFormText?_escapeForm (s : String) :
    readFormText? (utf8 (escapeForm s.toList)) = some s := by
  rw [readFormText?, unescape_escapeForm, textOf?_utf8]

theorem utf8_writtenPair (pair : String × String) :
    utf8 (writtenPair pair) =
      utf8 (escapeForm pair.1.toList) ++ 0x3d :: utf8 (escapeForm pair.2.toList) := by
  rw [writtenPair, utf8_append, utf8_cons]
  rfl

theorem readPair?_written (pair : String × String) :
    readPair? (utf8 (writtenPair pair)) = some pair := by
  have hname : ∀ b ∈ utf8 (escapeForm pair.1.toList), (b != 0x3d) = true := by
    intro b hb
    rw [bne_iff_ne]
    rintro rfl
    have hmem := mem_of_ascii_mem_utf8 hb (by decide)
    exact not_mem_formMarks_of_mem_escapeForm hmem (by decide)
  have htake : (utf8 (writtenPair pair)).takeWhile (· != 0x3d) =
      utf8 (escapeForm pair.1.toList) := by
    rw [utf8_writtenPair, List.takeWhile_append_of_pos hname]
    simp
  have hdrop : ((utf8 (writtenPair pair)).dropWhile (· != 0x3d)).drop 1 =
      utf8 (escapeForm pair.2.toList) := by
    rw [utf8_writtenPair, List.dropWhile_append_of_pos hname]
    rfl
  rw [readPair?, htake, hdrop, readFormText?_escapeForm, readFormText?_escapeForm]

theorem utf8_intercalate (sep : List Char) (texts : List (List Char)) :
    utf8 (sep.intercalate texts) = (utf8 sep).intercalate (texts.map utf8) := by
  induction texts with
  | nil => rfl
  | cons text texts ih =>
    cases texts with
    | nil => simp
    | cons next texts =>
      rw [List.intercalate_cons_cons, utf8_append, utf8_append, ih]
      simp

/-- The pairs of a form are its own pieces, none of them empty. -/
theorem pieces_of_written (pairs : List (String × String)) :
    (segments 0x26 (utf8 (['&'].intercalate (pairs.map writtenPair)))).filter (!·.isEmpty) =
      pairs.map (utf8 ∘ writtenPair) := by
  have hamp : ∀ piece ∈ pairs.map (utf8 ∘ writtenPair), 0x26 ∉ piece := by
    intro piece hpiece hb
    obtain ⟨pair, -, rfl⟩ := List.mem_map.mp hpiece
    exact not_mem_writtenPair (by decide) (by decide) pair (mem_of_ascii_mem_utf8 hb (by decide))
  have hfull : ∀ piece ∈ pairs.map (utf8 ∘ writtenPair), (!piece.isEmpty) = true := by
    intro piece hpiece
    obtain ⟨pair, -, rfl⟩ := List.mem_map.mp hpiece
    simp [utf8_writtenPair]
  cases pairs with
  | nil => rfl
  | cons pair pairs =>
    rw [utf8_intercalate, List.map_map, segments_eq_splitOn,
      show utf8 ['&'] = [0x26] from rfl, List.splitOn_intercalate _ hamp (by simp)]
    exact List.filter_eq_self.mpr hfull

/-- Pairs that are written are read back, whatever is in them. -/
theorem readPairs?_written (pairs : List (String × String)) :
    readPairs? (utf8 (['&'].intercalate (pairs.map writtenPair))) = some pairs := by
  rw [readPairs?, pieces_of_written]
  induction pairs with
  | nil => rfl
  | cons pair pairs ih =>
    rw [List.map_cons, List.mapM_cons, Function.comp_apply, readPair?_written, ih]
    rfl

end RestClient.Text
