import RestClient.DomainName.Status

/-!
# Punycode

Labels that are written in ASCII although they have other characters: the ASCII characters come
first, and behind the last hyphen stand the others as numbers in base 36, each the distance from
the one before it in the order of code points and places.

## Main definitions

- `decodeLabel?` — the label that some ASCII text stands for
-/

namespace RestClient.DomainName

/-- The value of a digit in base 36. -/
def punycodeDigit? (c : Char) : Option Nat :=
  if 'a' ≤ c && c ≤ 'z' then some (c.toNat - 0x61)
  else if 'A' ≤ c && c ≤ 'Z' then some (c.toNat - 0x41)
  else if '0' ≤ c && c ≤ '9' then some (c.toNat - 0x30 + 26)
  else none

/-- The threshold of the digit at place `k` under a bias. -/
def punycodeThreshold (k bias : Nat) : Nat :=
  min 26 (max 1 (k - bias))

/-- A distance made smaller until it is no more than 455, and how often that took. -/
def shrinkDistance (delta k : Nat) : Nat × Nat :=
  if 455 < delta then shrinkDistance (delta / 35) (k + 36) else (delta, k)
  termination_by delta
  decreasing_by exact Nat.div_lt_self (by omega) (by omega)

/-- The bias after a distance, for a label that has `count` characters by then. -/
def adaptBias (delta count : Nat) (first : Bool) : Nat :=
  let halved := if first then delta / 700 else delta / 2
  let (delta, k) := shrinkDistance (halved + halved / count) 0
  k + 36 * delta / (delta + 38)

/-- The number at the front of some digits, and what follows. Digits have growing weights; one below
its threshold is the last. Numbers have 32 bits. -/
def readDistance? (bias : Nat) (k weight sum : Nat) : List Char → Option (Nat × List Char)
  | [] => none
  | c :: rest =>
    match punycodeDigit? c with
    | none => none
    | some digit =>
      let sum := sum + digit * weight
      let threshold := punycodeThreshold k bias
      if Nat.pow 2 32 ≤ sum then none
      else if digit < threshold then some (sum, rest)
      else if Nat.pow 2 32 ≤ weight * (36 - threshold) then none
      else readDistance? bias (k + 36) (weight * (36 - threshold)) sum rest

/-- What follows a number is shorter. -/
theorem readDistance?_length {bias k weight sum n : Nat} {cs rest : List Char}
    (h : readDistance? bias k weight sum cs = some (n, rest)) : rest.length < cs.length := by
  induction cs generalizing k weight sum with
  | nil => simp [readDistance?] at h
  | cons c cs ih =>
    simp only [readDistance?] at h
    split at h
    · simp at h
    · split at h
      · simp at h
      · split at h
        · simp only [Option.some.injEq, Prod.mk.injEq] at h
          simp [← h.2]
        · split at h
          · simp at h
          · have := ih h
            simp only [List.length_cons]
            omega

/-- A character put at a place of a list. -/
def insertAt (place : Nat) (c : Char) (cs : List Char) : List Char :=
  cs.take place ++ c :: cs.drop place

/-- The characters that some digits put between those of `label`. `code` and `place` belong to the
last one. -/
def readInsertions? (bias code place : Nat) (label : List Char) (first : Bool) (cs : List Char) :
    Option (List Char) :=
  match cs with
  | [] => some label
  | c :: rest =>
    match h : readDistance? bias 36 1 0 (c :: rest) with
    | none => none
    | some (distance, rest') =>
      let count := label.length + 1
      let total := place + distance
      let code := code + total / count
      if Nat.pow 2 32 ≤ total || !(code < 0xd800 || (0xe000 ≤ code && code < 0x110000)) then none
      else
        have := readDistance?_length h
        readInsertions? (adaptBias distance count first) code (total % count + 1)
          (insertAt (total % count) (Char.ofNat code) label) false rest'
  termination_by cs.length
  decreasing_by simpa using this

/-- The label that `cs`, the text behind `xn--`, stands for. -/
def decodeLabel? (cs : List Char) : Option (List Char) :=
  let digits := (cs.reverse.takeWhile (· != '-')).reverse
  let (base, digits) :=
    if digits.length < cs.length then
      if digits.length + 1 = cs.length then ([], cs)
      else (cs.take (cs.length - digits.length - 1), digits)
    else ([], cs)
  if base.all fun c => c.toNat < 0x80 then readInsertions? 72 0x80 0 base true digits else none

end RestClient.DomainName
