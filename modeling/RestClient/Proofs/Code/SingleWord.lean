import RestClient.Interface.ClientConfig
import Mathlib.Data.List.TakeWhile

/-!
# Texts that are read as one identifier

A text that begins with a capital letter is read as one identifier exactly if the characters of an
identifier are followed by nothing but gaps: white space, and comments that document nothing.

## Main results

- `runAll_ident_eq_ok` — trees that are one identifier
- `treesOf_length` — every token is a tree or stands in one
- `isIdentifierText_iff` — texts that are one identifier
-/

namespace RestClient.Code

open Text (isIdentStart isIdentContinue)

/-! ### Trees that are one identifier -/

theorem Parser.run_ident {text : String} {place : Span} {trees : Tokens} {c : Cursor}
    (h : c.rest = .ident text place :: trees) :
    Parser.ident.run c =
      if keywords.contains text then .error ⟨.keyword text, place, false⟩
      else .ok ((text, place),
        { c with rest := trees, written := .ident text place :: c.written }) := by
  have hrest : ∀ {α : Type} (f : Tokens → Parser α), (rest >>= f).run c = (f c.rest).run c :=
    fun _ => rfl
  have htake : (do discard (take 1); return (text, place) : Parser (String × Span)).run c =
      .ok ((text, place),
        { c with rest := c.rest.drop 1, written := (c.rest.take 1).reverse ++ c.written }) := rfl
  have hfail : (fail (.keyword text) : Parser (String × Span)).run c =
      .error ⟨.keyword text, place, false⟩ := by
    unfold fail
    simp [h]
    rfl
  unfold ident
  rw [hrest, h]
  dsimp only
  split
  · exact hfail
  · rw [htake, h]
    rfl

theorem Parser.run_ident_eq_error {c : Cursor} (h : ∀ text place trees,
    c.rest ≠ .ident text place :: trees) : ∃ fault, Parser.ident.run c = .error fault := by
  have hrest : ∀ {α : Type} (f : Tokens → Parser α), (rest >>= f).run c = (f c.rest).run c :=
    fun _ => rfl
  unfold ident
  rw [hrest]
  cases hc : c.rest with
  | nil =>
    refine ⟨⟨.expected "identifier", c.scope, true⟩, ?_⟩
    simp [expected, fail, hc]
    rfl
  | cons tree trees =>
    refine ⟨⟨.expected "identifier", tree.headSpan, false⟩, ?_⟩
    cases tree with
    | ident text place => exact absurd hc (h text place trees)
    | _ =>
      simp [expected, fail, hc]
      rfl

/-- All of some trees are one identifier exactly if there is only this one tree. -/
theorem runAll_ident_eq_ok {trees : Tokens} {scope span : Span} {name : String} :
    Parser.runAll Parser.ident trees scope = .ok (name, span) ↔
      trees = [.ident name span] ∧ name ∉ Parser.keywords := by
  by_cases hident : ∃ text place rest, trees = .ident text place :: rest
  · obtain ⟨text, place, rest, rfl⟩ := hident
    have hrun := Parser.run_ident (c := Parser.start (.ident text place :: rest) scope) rfl
    unfold Parser.runAll
    rw [hrun]
    by_cases hkeyword : text ∈ Parser.keywords
    · rw [if_pos (List.contains_iff_mem.mpr hkeyword)]
      constructor
      · intro h
        cases h
      · rintro ⟨h, hname⟩
        obtain ⟨rfl, -⟩ : text = name ∧ place = span := by simpa using (List.cons.inj h).1
        exact absurd hkeyword hname
    · rw [if_neg fun h => hkeyword (List.contains_iff_mem.mp h)]
      cases rest with
      | nil =>
        constructor
        · intro h
          obtain ⟨rfl, rfl⟩ := Prod.mk.inj (Except.ok.inj h)
          exact ⟨rfl, hkeyword⟩
        · rintro ⟨h, -⟩
          obtain ⟨rfl, rfl⟩ : text = name ∧ place = span := by simpa using (List.cons.inj h).1
          rfl
      | cons next rest =>
        constructor
        · intro h
          cases next <;> cases h
        · rintro ⟨h, -⟩
          simp at h
  · constructor
    · intro h
      have hnone : ∀ text place rest, trees ≠ .ident text place :: rest := by
        rintro text place rest rfl
        exact hident ⟨text, place, rest, rfl⟩
      obtain ⟨fault, hrun⟩ := Parser.run_ident_eq_error (c := Parser.start trees scope) hnone
      unfold Parser.runAll at h
      rw [hrun] at h
      cases h
    · rintro ⟨rfl, -⟩
      exact absurd ⟨name, span, [], rfl⟩ hident

/-! ### Trees of tokens -/

/-- The trees outside of all groups that have not been closed, the last one first. -/
def outermost (groups : List OpenGroup) (current : Tokens) : Tokens :=
  (groups.getLast?.map OpenGroup.before).getD current

theorem outermost_cons (g : OpenGroup) (groups : List OpenGroup) (current : Tokens) :
    outermost (g :: groups) current = outermost groups g.before := by
  cases groups with
  | nil => rfl
  | cons g' groups =>
    rw [outermost, outermost, List.getLast?_cons_cons, List.getLast?_eq_some_getLast
      (List.cons_ne_nil g' groups)]
    rfl

/-- What is read never shrinks: a token is a tree of its own, or belongs to a group that becomes
one. -/
theorem treesOf_length {groups : List OpenGroup} {current trees : Tokens}
    {tokens : List (Lexeme × Span)} (h : treesOf groups current tokens = some trees) :
    (outermost groups current).length ≤ trees.length ∧
      (groups ≠ [] ∨ tokens ≠ [] → (outermost groups current).length < trees.length) := by
  induction tokens generalizing groups current with
  | nil =>
    cases groups with
    | nil =>
      obtain rfl : current.reverse = trees := by simpa [treesOf] using h
      simp [outermost]
    | cons g groups => simp [treesOf] at h
  | cons token tokens ih =>
    obtain ⟨lexeme, span⟩ := token
    -- a token that is a tree makes the innermost group longer, and this may be the outermost one
    have hleaf : ∀ more : Tokens, more ≠ [] →
        treesOf groups (more ++ current) tokens = some trees →
          (outermost groups current).length < trees.length := by
      intro more hmore ht
      obtain ⟨hle, hlt⟩ := ih ht
      cases groups with
      | nil =>
        have hlength : 0 < more.length := List.length_pos_iff.mpr hmore
        simp only [outermost, List.getLast?_nil, Option.map_none, Option.getD_none,
          List.length_append] at hle ⊢
        omega
      | cons g groups =>
        rw [outermost_cons] at hlt ⊢
        exact hlt (.inl (List.cons_ne_nil _ _))
    have hall : (outermost groups current).length < trees.length := by
      cases lexeme with
      | opening d =>
        have hlt := (ih h).2 (.inl (List.cons_ne_nil _ _))
        rwa [outermost_cons] at hlt
      | closing d =>
        cases groups with
        | nil => simp [treesOf] at h
        | cons g groups =>
          simp only [treesOf] at h
          split at h
          · obtain ⟨hle, hlt⟩ := ih h
            rw [outermost_cons]
            cases groups with
            | nil =>
              have hlength : (TokenTree.group d current.reverse ⟨g.start, span.stop⟩ ::
                g.before).length ≤ trees.length := hle
              exact hlength
            | cons g' groups =>
              rw [outermost_cons] at hlt ⊢
              exact hlt (.inl (List.cons_ne_nil _ _))
          · cases h
      | ident text => exact hleaf [.ident (String.ofList text) span] (List.cons_ne_nil _ _) h
      | lifetime text => exact hleaf [.lifetime (String.ofList text) span] (List.cons_ne_nil _ _) h
      | punct c joint => exact hleaf [.punct c joint span] (List.cons_ne_nil _ _) h
      | literal text => exact hleaf [.literal (String.ofList text) span] (List.cons_ne_nil _ _) h
      | doc inner text => exact hleaf _ (by simp [docTokens]) h
    exact ⟨hall.le, fun _ => hall⟩

/-! ### Texts -/

/-- The identifier at the start of a text that begins with the letter. -/
theorem lexeme?_letter (cs : List Char) :
    lexeme? ('X' :: cs) =
      some (.ident ('X' :: cs.takeWhile isIdentContinue), cs.dropWhile isIdentContinue) := by
  have hliteral : literalRest? ('X' :: cs) = none := rfl
  have hident : anyIdentRest? ('X' :: cs) = some (cs.dropWhile isIdentContinue) := rfl
  have hmarks : literalMarks.any (startsWith · ('X' :: cs)) = false := rfl
  have htaken : ('X' :: cs).take (('X' :: cs).length - (cs.dropWhile isIdentContinue).length) =
      'X' :: cs.takeWhile isIdentContinue := by
    have hcut : cs.length =
        (cs.takeWhile isIdentContinue).length + (cs.dropWhile isIdentContinue).length := by
      rw [← List.length_append, List.takeWhile_append_dropWhile]
    have hcount : ('X' :: cs).length - (cs.dropWhile isIdentContinue).length =
        (cs.takeWhile isIdentContinue).length + 1 := by
      rw [List.length_cons]
      omega
    rw [hcount, List.take_succ_cons]
    have hfront := @List.take_left _ (cs.takeWhile isIdentContinue) (cs.dropWhile isIdentContinue)
    rw [List.takeWhile_append_dropWhile] at hfront
    rw [hfront]
  show leaf? ('X' :: cs) = _
  unfold leaf?
  simp only [hliteral, hident, hmarks, Option.map_some, htaken]
  rfl

theorem skipGaps_letter (cs : List Char) : skipGaps ('X' :: cs) = 'X' :: cs := by
  have hnone : gapRest? ('X' :: cs) = none := rfl
  rw [skipGaps, hnone]

/-- The first token of a text that begins with the letter, and what follows it. -/
theorem lexemes_letter (fuel : Nat) (p : Position) (cs : List Char) : ∃ stop,
    lexemes (fuel + 1) p ('X' :: cs) =
      (lexemes fuel stop (cs.dropWhile isIdentContinue)).map
        ((.ident ('X' :: cs.takeWhile isIdentContinue), ⟨p, stop⟩) :: ·) := by
  refine ⟨p.after (('X' :: cs).take
    (('X' :: cs).length - (cs.dropWhile isIdentContinue).length)), ?_⟩
  rw [lexemes, skipGaps_letter, lexeme?_letter]
  simp only [List.isEmpty_cons, Bool.false_eq_true, if_false, Nat.sub_self, List.take_zero]
  rfl

theorem lexemes_eq_nil_iff (fuel : Nat) (p : Position) {cs : List Char} :
    lexemes (fuel + 1) p cs = some [] ↔ skipGaps cs = [] := by
  rw [lexemes]
  cases hgaps : skipGaps cs with
  | nil => simp
  | cons c rest =>
    simp only [List.isEmpty_cons, Bool.false_eq_true, if_false]
    cases lexeme? (c :: rest) with
    | none => simp
    | some found => simp

/-- Whether a text is one identifier: behind its characters there may only be gaps. -/
theorem isIdentifierText_iff {text : String} :
    isIdentifierText ("X" ++ text) = true ↔
      skipGaps (text.toList.dropWhile isIdentContinue) = [] := by
  set cs := text.toList with hcs
  set word : List Char := 'X' :: cs.takeWhile isIdentContinue with hword
  obtain ⟨stop, hlexemes⟩ := lexemes_letter (cs.length + 1) ⟨1, 0⟩ cs
  have hread : Tokens.read? ("X" ++ text) =
      (lexemes (cs.length + 1 + 1) ⟨1, 0⟩ ('X' :: cs)).bind (treesOf [] []) := by
    have htext : ("X" ++ text).toList = 'X' :: cs := by simp [hcs]
    unfold Tokens.read?
    rw [htext]
    rfl
  have hkeyword : String.ofList word ∉ Parser.keywords := by
    have hall : ∀ k ∈ Parser.keywords, k.toList.head? ≠ some 'X' := by decide
    intro hmem
    exact hall _ hmem (by simp [hword])
  rw [hlexemes] at hread
  unfold isIdentifierText
  rw [hread, ← lexemes_eq_nil_iff cs.length stop]
  cases hrest : lexemes (cs.length + 1) stop (cs.dropWhile isIdentContinue) with
  | none => simp
  | some rest =>
    have hword : treesOf [] [] ((.ident word, ⟨⟨1, 0⟩, stop⟩) :: rest) =
        treesOf [] [.ident (String.ofList word) ⟨⟨1, 0⟩, stop⟩] rest := rfl
    rw [Option.map_some, Option.bind_some, hword, Option.some.injEq]
    constructor
    · intro h
      by_contra hne
      split at h
      · next trees htrees =>
        have hlength := (treesOf_length htrees).2 (.inr hne)
        cases hrun : Parser.runAll Parser.ident trees .nowhere with
        | error fault =>
          rw [hrun] at h
          cases h
        | ok found =>
          obtain ⟨rfl, -⟩ := runAll_ident_eq_ok.mp hrun
          simp [outermost] at hlength
      · cases h
    · rintro rfl
      rw [treesOf, List.isEmpty_nil, if_pos rfl, List.reverse_singleton]
      dsimp only
      rw [runAll_ident_eq_ok.mpr ⟨rfl, hkeyword⟩]
      rfl

end RestClient.Code
