import RestClient.Proofs.Text.Utf8

/-!
# Escaped texts

Of the characters with a meaning in a path only the percent sign is left in an escaped text. What is
escaped in a path or in a form is read back octet by octet. In a form the plus signs are read as
spaces first, which leaves the escapes as they are.

## Main definitions

- `spaced` — octets with spaces for plus signs

## Main results

- `not_mem_escapePath` — what an escaped text does not have in it
- `unescape_escapePath`, `unescape_escapeForm` — an escaped text stands for its octets
- `escapePath_injective` — different texts are escaped differently
-/

namespace RestClient.Text

/-! ### Characters of escaped texts -/

/-- An escape is the percent sign and two digits. -/
theorem eq_percent_or_digit_of_mem_percentOctet {b : UInt8} {c : Char} (h : c ∈ percentOctet b) :
    c = '%' ∨ ∃ i : Fin 16, c = upperHexDigit i.val := by
  have hhigh : b.toNat / 16 < 16 := by
    have := b.toNat_lt
    omega
  have hlow : b.toNat % 16 < 16 := by omega
  simp only [percentOctet, List.mem_cons, List.not_mem_nil, or_false] at h
  rcases h with rfl | rfl | rfl
  · exact .inl rfl
  · exact .inr ⟨⟨_, hhigh⟩, rfl⟩
  · exact .inr ⟨⟨_, hlow⟩, rfl⟩

/-- The only special character in an escaped text is the sign that escapes start with. -/
theorem eq_percent_of_mem_escapePath {c : Char} {cs : List Char} (h : c ∈ escapePath cs)
    (hs : c ∈ pathSpecials) : c = '%' := by
  obtain ⟨b, _, hb⟩ := List.mem_flatMap.mp h
  split at hb
  · next hstands =>
    obtain rfl : c = charOfOctet b := by simpa using hb
    simp only [standsInPath, Bool.and_eq_true, Bool.not_eq_true'] at hstands
    exact absurd hs (by simpa using hstands.2)
  · rcases eq_percent_or_digit_of_mem_percentOctet hb with rfl | ⟨i, rfl⟩
    · rfl
    · have hdigits : ∀ i : Fin 16, upperHexDigit i.val ∉ pathSpecials := by decide
      exact absurd hs (hdigits i)

theorem not_mem_escapePath {c : Char} (hspecial : c ∈ pathSpecials) (hne : c ≠ '%')
    (cs : List Char) : c ∉ escapePath cs := by
  intro h
  exact hne (eq_percent_of_mem_escapePath h hspecial)

theorem open_not_mem_escapePath (cs : List Char) : '{' ∉ escapePath cs :=
  not_mem_escapePath (by decide) (by decide) cs

/-! ### Octet by octet -/

theorem unescape_cons {b : UInt8} (hb : b ≠ 0x25) (rest : Octets) :
    unescape (b :: rest) = b :: unescape rest := by
  cases rest with
  | nil => rfl
  | cons h rest =>
    cases rest with
    | nil => rfl
    | cons l rest =>
      rw [unescape, if_neg (by simpa using hb)]

theorem unescape_percent {h l : UInt8} {high low : ℕ} (hh : hexValue? (charOfOctet h) = some high)
    (hl : hexValue? (charOfOctet l) = some low) (rest : Octets) :
    unescape (0x25 :: h :: l :: rest) = UInt8.ofNat (16 * high + low) :: unescape rest := by
  rw [unescape, hh, hl]
  rfl

/-- A digit of an escape as an octet: it is read as the digit, and is no plus sign. -/
theorem exists_octet_of_upperHexDigit {n : ℕ} (hn : n < 16) :
    ∃ b : UInt8, utf8 [upperHexDigit n] = [b] ∧ hexValue? (charOfOctet b) = some n ∧ b ≠ 0x2b := by
  have hall : ∀ i : Fin 16,
      utf8 [upperHexDigit i.val] = [UInt8.ofNat (upperHexDigit i.val).toNat] ∧
        hexValue? (charOfOctet (UInt8.ofNat (upperHexDigit i.val).toNat)) = some i.val ∧
        UInt8.ofNat (upperHexDigit i.val).toNat ≠ 0x2b := by
    decide
  exact ⟨_, hall ⟨n, hn⟩⟩

/-- The octets of an escape stand for one octet, and none of them is a plus sign. -/
theorem unescape_percentOctet (b : UInt8) :
    (∀ rest, unescape (utf8 (percentOctet b) ++ rest) = b :: unescape rest) ∧
      0x2b ∉ utf8 (percentOctet b) := by
  have hlt := b.toNat_lt
  obtain ⟨h, hh, hhigh, hplus⟩ := exists_octet_of_upperHexDigit (n := b.toNat / 16) (by omega)
  obtain ⟨l, hl, hlow, hplus'⟩ := exists_octet_of_upperHexDigit (n := b.toNat % 16) (by omega)
  have hutf8 : utf8 (percentOctet b) = [0x25, h, l] := by
    have hsplit : percentOctet b =
        ['%'] ++ ([upperHexDigit (b.toNat / 16)] ++ [upperHexDigit (b.toNat % 16)]) := rfl
    rw [hsplit, utf8_append, utf8_append, hh, hl]
    rfl
  have hvalue : UInt8.ofNat (16 * (b.toNat / 16) + b.toNat % 16) = b := by
    rw [Nat.div_add_mod, UInt8.ofNat_toNat]
  rw [hutf8]
  constructor
  · intro rest
    have hread := unescape_percent hhigh hlow rest
    rwa [hvalue] at hread
  · simp [hplus.symm, hplus'.symm]

/-- Octets that are written one after the other are read one after the other. -/
theorem unescape_flatMap {write : UInt8 → Octets}
    (h : ∀ b rest, unescape (write b ++ rest) = b :: unescape rest) (octets : Octets) :
    unescape (octets.flatMap write) = octets := by
  induction octets with
  | nil => rfl
  | cons b octets ih => rw [List.flatMap_cons, h, ih]

theorem utf8_flatMap (write : UInt8 → List Char) (octets : Octets) :
    utf8 (octets.flatMap write) = octets.flatMap fun b => utf8 (write b) :=
  List.flatMap_assoc

/-! ### Paths -/

/-- An escaped text in a path stands for its octets. -/
theorem unescape_escapePath (cs : List Char) : unescape (utf8 (escapePath cs)) = utf8 cs := by
  rw [escapePath, escapeBy, utf8_flatMap]
  refine unescape_flatMap (fun b rest => ?_) (utf8 cs)
  split
  · next hstands =>
    have hall : ∀ b, standsInPath b → b < 0x80 ∧ b ≠ 0x25 := forall_octet (by decide +kernel)
    obtain ⟨hascii, hpercent⟩ := hall b hstands
    rw [utf8_charOfOctet hascii]
    exact unescape_cons hpercent rest
  · exact (unescape_percentOctet b).1 rest

theorem escapePath_injective : Function.Injective escapePath := by
  intro as bs h
  have hread := congrArg (unescape ∘ utf8) h
  simp only [Function.comp_apply, unescape_escapePath] at hread
  exact utf8_injective hread

/-! ### Forms -/

/-- Octets with spaces for plus signs. -/
def spaced (octets : Octets) : Octets :=
  octets.map fun b => if b == 0x2b then 0x20 else b

theorem spaced_of_not_mem {octets : Octets} (h : 0x2b ∉ octets) : spaced octets = octets := by
  have hkeep : ∀ b ∈ octets, (if b == 0x2b then 0x20 else b) = b := by
    intro b hb
    have hne : b ≠ 0x2b := fun he => h (he ▸ hb)
    rw [if_neg (by simpa using hne)]
  rw [spaced, List.map_congr_left hkeep, List.map_id']

/-- An escaped text in a form stands for its octets. -/
theorem unescape_escapeForm (cs : List Char) :
    unescape (spaced (utf8 (escapeForm cs))) = utf8 cs := by
  rw [escapeForm, utf8_flatMap, spaced, List.map_flatMap]
  refine unescape_flatMap (fun b rest => ?_) (utf8 cs)
  change unescape (spaced _ ++ rest) = _
  split
  · next hstands =>
    have hall : ∀ b, standsInForm b → b < 0x80 ∧ b ≠ 0x25 ∧ b ≠ 0x2b :=
      forall_octet (by decide +kernel)
    obtain ⟨hascii, hpercent, hplus⟩ := hall b hstands
    rw [utf8_charOfOctet hascii, spaced_of_not_mem (by simpa using hplus.symm)]
    exact unescape_cons hpercent rest
  split
  · next hspace =>
    obtain rfl : b = 0x20 := by simpa using hspace
    exact unescape_cons (by decide) rest
  · obtain ⟨hread, hplus⟩ := unescape_percentOctet b
    rw [spaced_of_not_mem hplus]
    exact hread rest

end RestClient.Text
