import RestClient.Text.CaseClass

/-!
# Snake case

A text split into words that are written in lower case with underscores between them. Words end at
characters that are neither letters nor numbers, where lower case turns into upper case, and before
the last capital of several that a small letter follows.

## Main definitions

- `Casing` — the case of the letters of a word so far
- `words` — the words of a text
- `snakeCase` — the words in lower case, joined
-/

namespace RestClient.Text

/-- The case of the last letter of a word that has one. -/
inductive Casing where
  | none
  | lower
  | upper
  deriving DecidableEq, Repr

/-- The case after one more character; a character without case changes nothing. -/
def Casing.after (casing : Casing) (c : Char) : Casing :=
  if isLower c then .lower else if isUpper c then .upper else casing

/-- The words of a run of letters and numbers. `word` holds the current word backwards. -/
def splitRun (casing : Casing) (word : List Char) : List Char → List (List Char)
  | [] => []
  | [c] => [(c :: word).reverse]
  | c :: d :: rest =>
    if casing.after c = .lower && isUpper d then
      (c :: word).reverse :: splitRun .none [] (d :: rest)
    else if casing = .upper && isUpper c && isLower d then
      word.reverse :: splitRun .none [c] (d :: rest)
    else splitRun (casing.after c) (c :: word) (d :: rest)

/-- The longest runs of letters and numbers, from left to right. -/
def runs (cs : List Char) : List (List Char) :=
  match cs with
  | [] => []
  | c :: rest =>
    if isAlphanumeric c then
      (c :: rest.takeWhile isAlphanumeric) :: runs (rest.dropWhile isAlphanumeric)
    else runs rest
  termination_by cs.length
  decreasing_by
    · have := (List.dropWhile_sublist (l := rest) isAlphanumeric).length_le
      simp only [List.length_cons]; omega
    · simp

/-- The words of a text. -/
def words (cs : List Char) : List (List Char) :=
  (runs cs).flatMap (splitRun .none [])

/-- A word in lower case. A capital sigma at its end becomes the final one. -/
def lowerWord : List Char → List Char
  | [] => []
  | [c] => if c.toNat = 0x3a3 then [Char.ofNat 0x3c2] else lowerChar c
  | c :: rest => lowerChar c ++ lowerWord rest

/-- The words of a text in lower case with underscores between them. -/
def snakeCase (cs : List Char) : List Char :=
  ['_'].intercalate ((words cs).map lowerWord)

end RestClient.Text
