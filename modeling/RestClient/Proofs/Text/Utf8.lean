import RestClient.Text.Escape
import Mathlib.Data.Fintype.Basic

/-!
# Texts that are read back

The octets of a text are read as that text. Each character is read from its own octets, whatever
follows them, as its first octet tells how many there are.

## Main results

- `readChar_utf8EncodeChar` — a character is read from its octets
- `readUtf8_utf8` — a text is read from its octets
- `mem_of_ascii_mem_utf8` — an ASCII octet comes from the ASCII character
-/

namespace RestClient.Text

theorem toNat_octet {n : ℕ} (h : n < 256) : (UInt8.ofNat n).toNat = n :=
  UInt8.toNat_ofNat_of_lt' h

theorem octet_le_iff {m n : ℕ} (hm : m < 256) (hn : n < 256) :
    UInt8.ofNat m ≤ UInt8.ofNat n ↔ m ≤ n := by
  rw [UInt8.le_iff_toNat_le, toNat_octet hm, toNat_octet hn]

/-- What holds of the octets by number holds of all. -/
theorem forall_octet {p : UInt8 → Prop} (h : ∀ n : Fin 256, p (UInt8.ofNat n.val)) (b : UInt8) :
    p b := by
  have hb := h ⟨b.toNat, b.toNat_lt⟩
  rwa [UInt8.ofNat_toNat] at hb

/-! ### First octets and octets that follow -/

theorem leadOctet?_two {n : ℕ} (hlow : 2 ≤ n) (hhigh : n < 32) :
    leadOctet? (UInt8.ofNat (n + 192)) = some (1, UInt8.ofNat 0x80, UInt8.ofNat 0xbf) := by
  have hall : ∀ i : Fin 32, 2 ≤ i.val → leadOctet? (UInt8.ofNat (i.val + 192)) =
      some (1, UInt8.ofNat 0x80, UInt8.ofNat 0xbf) := by
    decide
  exact hall ⟨n, hhigh⟩ hlow

theorem leadOctet?_three {n : ℕ} (h : n < 16) : leadOctet? (UInt8.ofNat (n + 224)) =
    some (2, UInt8.ofNat (if n = 0 then 0xa0 else 0x80),
      UInt8.ofNat (if n = 13 then 0x9f else 0xbf)) := by
  have hall : ∀ i : Fin 16, leadOctet? (UInt8.ofNat (i.val + 224)) =
      some (2, UInt8.ofNat (if i.val = 0 then 0xa0 else 0x80),
        UInt8.ofNat (if i.val = 13 then 0x9f else 0xbf)) := by
    decide
  exact hall ⟨n, h⟩

theorem leadOctet?_four {n : ℕ} (h : n < 5) : leadOctet? (UInt8.ofNat (n + 240)) =
    some (3, UInt8.ofNat (if n = 0 then 0x90 else 0x80),
      UInt8.ofNat (if n = 4 then 0x8f else 0xbf)) := by
  have hall : ∀ i : Fin 5, leadOctet? (UInt8.ofNat (i.val + 240)) =
      some (3, UInt8.ofNat (if i.val = 0 then 0x90 else 0x80),
        UInt8.ofNat (if i.val = 4 then 0x8f else 0xbf)) := by
    decide
  exact hall ⟨n, h⟩

theorem not_ascii_of_leadOctet? {b : UInt8} {x : ℕ × UInt8 × UInt8}
    (h : leadOctet? b = some x) : ¬ b < 0x80 := by
  have hall : ∀ b, (leadOctet? b).isSome → ¬ b < 0x80 := forall_octet (by decide +kernel)
  exact hall b (by rw [h]; rfl)

theorem isContinuation_octet {n : ℕ} (h : n < 64) : isContinuation (UInt8.ofNat (n + 128)) := by
  have hall : ∀ i : Fin 64, isContinuation (UInt8.ofNat (i.val + 128)) := by decide
  exact hall ⟨n, h⟩

/-! ### One character -/

section

variable {b c d e low high : UInt8} (rest : Octets)

theorem readChar_two (hb : leadOctet? b = some (1, low, high)) (hlow : low ≤ c) (hhigh : c ≤ high) :
    readChar b (c :: rest) = .ok (Char.ofNat (b.toNat % 32 * 64 + c.toNat % 64), 1) := by
  have hlow := UInt8.not_lt.mpr hlow
  have hhigh := UInt8.not_lt.mpr hhigh
  simp [readChar, not_ascii_of_leadOctet? hb, hb, hlow, hhigh]

theorem readChar_three (hb : leadOctet? b = some (2, low, high)) (hlow : low ≤ c)
    (hhigh : c ≤ high) (hd : isContinuation d) :
    readChar b (c :: d :: rest) =
      .ok (Char.ofNat (b.toNat % 16 * 4096 + c.toNat % 64 * 64 + d.toNat % 64), 2) := by
  have hlow := UInt8.not_lt.mpr hlow
  have hhigh := UInt8.not_lt.mpr hhigh
  simp [readChar, not_ascii_of_leadOctet? hb, hb, hlow, hhigh, hd]

theorem readChar_four (hb : leadOctet? b = some (3, low, high)) (hlow : low ≤ c)
    (hhigh : c ≤ high) (hd : isContinuation d) (he : isContinuation e) :
    readChar b (c :: d :: e :: rest) =
      .ok (Char.ofNat (b.toNat % 8 * 262144 + c.toNat % 64 * 4096 + d.toNat % 64 * 64 +
        e.toNat % 64), 3) := by
  have hlow := UInt8.not_lt.mpr hlow
  have hhigh := UInt8.not_lt.mpr hhigh
  simp [readChar, not_ascii_of_leadOctet? hb, hb, hlow, hhigh, hd, he]

end

section

variable {v : ℕ} (rest : Octets)

theorem readChar_octets_one (h : v ≤ 127) :
    readChar (UInt8.ofNat v) rest = .ok (Char.ofNat v, 0) := by
  have hb := toNat_octet (n := v) (by omega)
  have hascii : UInt8.ofNat v < 0x80 := by
    rw [UInt8.lt_iff_toNat_lt, hb]
    exact Nat.lt_succ_of_le h
  rw [readChar, if_pos hascii, hb]

theorem readChar_octets_two (hlow : 127 < v) (hhigh : v ≤ 2047) :
    readChar (UInt8.ofNat (v / 64 % 32 + 192)) (UInt8.ofNat (v % 64 + 128) :: rest) =
      .ok (Char.ofNat v, 1) := by
  have hlead := leadOctet?_two (n := v / 64 % 32) (by omega) (by omega)
  have hread := readChar_two rest (c := UInt8.ofNat (v % 64 + 128)) hlead
    ((octet_le_iff (by omega) (by omega)).mpr (by omega))
    ((octet_le_iff (by omega) (by omega)).mpr (by omega))
  rw [hread, toNat_octet (by omega), toNat_octet (by omega)]
  have hv : (v / 64 % 32 + 192) % 32 * 64 + (v % 64 + 128) % 64 = v := by omega
  rw [hv]

/-- No character has a number between `0xd800` and `0xdfff`, which the second octet would show. -/
theorem readChar_octets_three (hlow : 2047 < v) (hhigh : v ≤ 65535)
    (hvalid : v < 0xd800 ∨ 0xdfff < v) :
    readChar (UInt8.ofNat (v / 4096 % 16 + 224))
        (UInt8.ofNat (v / 64 % 64 + 128) :: UInt8.ofNat (v % 64 + 128) :: rest) =
      .ok (Char.ofNat v, 2) := by
  have hlead := leadOctet?_three (n := v / 4096 % 16) (by omega)
  have hread := readChar_three rest (c := UInt8.ofNat (v / 64 % 64 + 128)) hlead
    ((octet_le_iff (by split <;> omega) (by omega)).mpr (by split <;> omega))
    ((octet_le_iff (by omega) (by split <;> omega)).mpr (by split <;> omega))
    (isContinuation_octet (n := v % 64) (by omega))
  rw [hread, toNat_octet (by omega), toNat_octet (by omega), toNat_octet (by omega)]
  have hv : (v / 4096 % 16 + 224) % 16 * 4096 + (v / 64 % 64 + 128) % 64 * 64 +
      (v % 64 + 128) % 64 = v := by
    omega
  rw [hv]

theorem readChar_octets_four (hlow : 65535 < v) (hvalid : v < 0x110000) :
    readChar (UInt8.ofNat (v / 262144 % 8 + 240))
        (UInt8.ofNat (v / 4096 % 64 + 128) :: UInt8.ofNat (v / 64 % 64 + 128) ::
          UInt8.ofNat (v % 64 + 128) :: rest) =
      .ok (Char.ofNat v, 3) := by
  have hlead := leadOctet?_four (n := v / 262144 % 8) (by omega)
  have hread := readChar_four rest (c := UInt8.ofNat (v / 4096 % 64 + 128)) hlead
    ((octet_le_iff (by split <;> omega) (by omega)).mpr (by split <;> omega))
    ((octet_le_iff (by omega) (by split <;> omega)).mpr (by split <;> omega))
    (isContinuation_octet (n := v / 64 % 64) (by omega))
    (isContinuation_octet (n := v % 64) (by omega))
  rw [hread, toNat_octet (by omega), toNat_octet (by omega), toNat_octet (by omega),
    toNat_octet (by omega)]
  have hv : (v / 262144 % 8 + 240) % 8 * 262144 + (v / 4096 % 64 + 128) % 64 * 4096 +
      (v / 64 % 64 + 128) % 64 * 64 + (v % 64 + 128) % 64 = v := by
    omega
  rw [hv]

end

/-- A character is read from its octets, whatever follows them. -/
theorem readChar_utf8EncodeChar (c : Char) :
    ∃ b more, String.utf8EncodeChar c = b :: more ∧
      ∀ rest, readChar b (more ++ rest) = .ok (c, more.length) := by
  have hc : Char.ofNat c.val.toNat = c := Char.ofNat_toNat c
  have hvalid : c.val.toNat < 0xd800 ∨ 0xdfff < c.val.toNat ∧ c.val.toNat < 0x110000 := c.valid
  unfold String.utf8EncodeChar
  generalize c.val.toNat = v at hc hvalid
  subst hc
  dsimp only
  split
  · next h => exact ⟨_, _, rfl, fun rest => readChar_octets_one rest h⟩
  split
  · next h => exact ⟨_, _, rfl, fun rest => readChar_octets_two rest (by omega) h⟩
  split
  · next h =>
    exact ⟨_, _, rfl, fun rest => readChar_octets_three rest (by omega) h (by omega)⟩
  · exact ⟨_, _, rfl, fun rest => readChar_octets_four rest (by omega) (by omega)⟩

/-! ### Texts -/

theorem utf8_cons (c : Char) (cs : List Char) :
    utf8 (c :: cs) = String.utf8EncodeChar c ++ utf8 cs :=
  List.flatMap_cons

theorem utf8_append (as bs : List Char) : utf8 (as ++ bs) = utf8 as ++ utf8 bs :=
  List.flatMap_append

theorem readUtf8From_utf8 (index : ℕ) (cs : List Char) : readUtf8From index (utf8 cs) = .ok cs := by
  induction cs generalizing index with
  | nil => simp [utf8, readUtf8From]
  | cons c cs ih =>
    obtain ⟨b, more, hc, hread⟩ := readChar_utf8EncodeChar c
    rw [utf8_cons, hc, List.cons_append, readUtf8From, hread]
    simp only [List.drop_left, ih]

/-- A text is read from its octets. -/
theorem readUtf8_utf8 (cs : List Char) : readUtf8 (utf8 cs) = .ok cs :=
  readUtf8From_utf8 0 cs

theorem textOf?_utf8 (s : String) : textOf? (utf8 s.toList) = some s := by
  rw [textOf?, readUtf8_utf8]
  exact congrArg some String.ofList_toList

theorem utf8_injective : Function.Injective utf8 := by
  intro as bs h
  have hread := congrArg readUtf8 h
  rw [readUtf8_utf8, readUtf8_utf8] at hread
  exact Except.ok.inj hread

/-! ### ASCII -/

theorem utf8_charOfOctet {b : UInt8} (h : b < 0x80) : utf8 [charOfOctet b] = [b] := by
  have hall : ∀ n : Fin 128, utf8 [Char.ofNat n.val] = [UInt8.ofNat n.val] := by decide
  have hb : b.toNat < 128 := UInt8.lt_iff_toNat_lt.mp h
  have hone := hall ⟨b.toNat, hb⟩
  rwa [UInt8.ofNat_toNat] at hone

/-- All octets of a character that is not ASCII are at least `0x80`. -/
theorem not_ascii_of_mem_utf8EncodeChar {c : Char} (hc : 127 < c.val.toNat) :
    ∀ b ∈ String.utf8EncodeChar c, ¬ b < 0x80 := by
  have hoctet : ∀ {n : ℕ}, 128 ≤ n → n < 256 → ¬ UInt8.ofNat n < 0x80 := by
    intro n hlow hhigh hn
    have hn : (UInt8.ofNat n).toNat < 128 := UInt8.lt_iff_toNat_lt.mp hn
    rw [toNat_octet hhigh] at hn
    omega
  unfold String.utf8EncodeChar
  generalize c.val.toNat = v at hc
  dsimp only
  rw [if_neg (by omega)]
  split
  · simp only [List.forall_mem_cons]
    exact ⟨hoctet (by omega) (by omega), hoctet (by omega) (by omega), by simp⟩
  split
  · simp only [List.forall_mem_cons]
    exact ⟨hoctet (by omega) (by omega), hoctet (by omega) (by omega),
      hoctet (by omega) (by omega), by simp⟩
  · simp only [List.forall_mem_cons]
    exact ⟨hoctet (by omega) (by omega), hoctet (by omega) (by omega),
      hoctet (by omega) (by omega), hoctet (by omega) (by omega), by simp⟩

/-- An ASCII octet of a text comes from the ASCII character. -/
theorem mem_of_ascii_mem_utf8 {b : UInt8} {cs : List Char} (hmem : b ∈ utf8 cs) (h : b < 0x80) :
    charOfOctet b ∈ cs := by
  obtain ⟨c, hc, hb⟩ := List.mem_flatMap.mp hmem
  have hascii : c.val.toNat ≤ 127 := by
    by_contra hn
    exact not_ascii_of_mem_utf8EncodeChar (by omega) b hb h
  have hone : String.utf8EncodeChar c = [UInt8.ofNat c.val.toNat] := if_pos hascii
  rw [hone] at hb
  obtain rfl := List.mem_singleton.mp hb
  rw [charOfOctet, toNat_octet (by omega)]
  exact (Char.ofNat_toNat c).symm ▸ hc

end RestClient.Text
