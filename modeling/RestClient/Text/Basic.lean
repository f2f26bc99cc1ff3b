/-!
# Characters and pieces of texts

What the other modules on texts start from: sets of characters, blank characters and the text that
is left without those at its ends, and the pieces of a list between separators. A set of code points
is given by the increasing list of the numbers at which membership changes: the first number is the
first member, the second the first number after it that is no member, and so on.

## Main definitions

- `Boundaries` — a set of code points, with `Boundaries.contains`
- `isBlank` — the Unicode property `White_Space`
- `trim` — a text without the blanks at its ends
- `segments` — the pieces between separators
-/

namespace RestClient.Text

/-- The numbers at which membership in a set changes, in increasing order. -/
abbrev Boundaries := List Nat

/-- A number is a member when an odd number of boundaries lies at or below it. -/
def Boundaries.contains : Boundaries → Nat → Bool
  | [], _ => false
  | b :: rest, n => if b ≤ n then !Boundaries.contains rest n else false

/-! ### Blank characters -/

/-- The Unicode property `White_Space`. -/
def isBlank (c : Char) : Bool :=
  let n := c.toNat
  (0x09 ≤ n && n ≤ 0x0d) || n == 0x20 || n == 0x85 || n == 0xa0 || n == 0x1680 ||
    (0x2000 ≤ n && n ≤ 0x200a) || n == 0x2028 || n == 0x2029 || n == 0x202f || n == 0x205f ||
    n == 0x3000

/-- `cs` without the blanks at its start and at its end. -/
def trimChars (cs : List Char) : List Char :=
  ((cs.dropWhile isBlank).reverse.dropWhile isBlank).reverse

/-- `s` without the blanks at its start and at its end. -/
def trim (s : String) : String :=
  String.ofList (trimChars s.toList)

/-! ### Segments -/

/-- The pieces of a list between the occurrences of `sep`, which are left out. -/
def segments {α : Type} [BEq α] (sep : α) : List α → List (List α)
  | [] => [[]]
  | x :: xs =>
    if x == sep then [] :: segments sep xs
    else
      match segments sep xs with
      | [] => [[x]]
      | piece :: pieces => (x :: piece) :: pieces

end RestClient.Text
