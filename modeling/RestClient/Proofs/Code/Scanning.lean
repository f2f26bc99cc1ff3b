import Mathlib.Data.List.Basic
import Mathlib.Data.Nat.Basic
import Mathlib.Data.Option.Basic
import Mathlib.Order.Basic
import RestClient.Code.Lexer

/-!
# Scanners move on

What a scanner leaves of a text is shorter than the text: every token takes a character at least.
A documentation comment and a delimiter that closes a group do not end with a line feed, so what
they close ends behind the start of a line.

## Main definitions

- `Lexeme.EndsGroup` — tokens behind which a group ends
- `EndsInLine` — the last character taken of a text is no line feed

## Main results

- `length_lt_of_lexeme?` — a token takes a character, and one that ends a group ends in a line
-/

namespace RestClient.Code

open Text (isIdentStart isIdentContinue)

variable {cs rest : List Char} {form : QuotedForm}

/-! ### Identifiers and suffixes -/

theorem length_dropWhile_le (p : Char → Bool) (cs : List Char) :
    (cs.dropWhile p).length ≤ cs.length :=
  (List.dropWhile_suffix p).length_le

/-- What is left after the first character of an end of a text is shorter than the text. -/
theorem length_lt_of_drop {n : Nat} {c : Char} {tail : List Char} (hdrop : cs.drop n = c :: tail)
    (h : rest.length ≤ tail.length) : rest.length < cs.length := by
  have hlength := congrArg List.length hdrop
  rw [List.length_drop, List.length_cons] at hlength
  omega

theorem length_lt_of_identRest? (h : identRest? cs = some rest) : rest.length < cs.length := by
  revert h
  fun_cases identRest? cs with
  | case2 c cs => exact fun h => Option.some.inj h ▸ Nat.lt_succ_of_le (length_dropWhile_le _ cs)
  | _ => exact nofun

theorem length_dropSuffix_le (cs : List Char) : (dropSuffix cs).length ≤ cs.length := by
  unfold dropSuffix
  cases h : identRest? cs with
  | none => exact le_refl _
  | some rest => exact (length_lt_of_identRest? h).le

theorem eq_of_wordBreak? (h : wordBreak? cs = some rest) : rest = cs := by
  revert h
  fun_cases wordBreak? cs with
  | case2 => exact nofun
  | _ => exact fun h => (Option.some.inj h).symm

/-! ### Quoted literals -/

theorem length_lt_of_bracedNumber? {digits value n : Nat}
    (h : bracedNumber? digits value cs = some (n, rest)) : rest.length < cs.length := by
  fun_induction bracedNumber? digits value cs with
  | case2 digits value cs hdigits ih => exact Nat.lt_succ_of_lt (ih h)
  | case4 digits value cs =>
    obtain ⟨-, rfl⟩ := Prod.mk.inj (Option.some.inj h)
    exact Nat.lt_succ_self _
  | case8 digits value c cs _ _ d hd _ ih => exact Nat.lt_succ_of_lt (ih h)
  | _ => cases h

theorem length_lt_of_unicodeEscape? {d : Char} (h : unicodeEscape? cs = some (d, rest)) :
    rest.length < cs.length := by
  revert h
  fun_cases unicodeEscape? cs with
  | case1 cs n rest hnumber =>
    intro h
    obtain ⟨-, rfl⟩ := Prod.mk.inj (Option.some.inj h)
    exact Nat.lt_succ_of_lt (length_lt_of_bracedNumber? hnumber)
  | _ => exact nofun

theorem length_lt_of_byteEscape? {n : Nat} (h : byteEscape? cs = some (n, rest)) :
    rest.length < cs.length := by
  revert h
  fun_cases byteEscape? cs with
  | case1 =>
    intro h
    obtain ⟨-, rfl⟩ := Prod.mk.inj (Option.some.inj h)
    exact Nat.lt_succ_of_lt (Nat.lt_succ_self _)
  | _ => exact nofun

theorem length_lt_of_escapeRest? (h : escapeRest? form cs = some rest) :
    rest.length < cs.length := by
  revert h
  fun_cases escapeRest? form cs with
  | case2 cs n tail hbyte =>
    exact fun h => Option.some.inj h ▸ Nat.lt_succ_of_lt (length_lt_of_byteEscape? hbyte)
  | case6 c cs _ _ d tail hescape =>
    exact fun h => Option.some.inj h ▸ Nat.lt_succ_of_lt (length_lt_of_unicodeEscape? hescape)
  | case8 => exact fun h => Option.some.inj h ▸ Nat.lt_succ_self _
  | case9 => exact fun h => Option.some.inj h ▸ Nat.lt_succ_self _
  | _ => exact nofun

theorem length_le_of_continuedLine? (h : continuedLine? cs = some rest) :
    rest.length ≤ cs.length := by
  fun_induction continuedLine? cs with
  | case3 => exact Option.some.inj h ▸ le_refl _
  | case4 cs ih => exact (ih h).trans ((Nat.le_succ _).trans (Nat.le_succ _))
  | case6 c d cs _ _ ih => exact (ih h).trans (Nat.le_succ _)
  | case7 => exact Option.some.inj h ▸ le_refl _
  | _ => cases h

theorem length_lt_of_quotedRest? {fuel : Nat} (h : quotedRest? form fuel cs = some rest) :
    rest.length < cs.length := by
  induction fuel generalizing cs with
  | zero => cases h
  | succ fuel ih =>
    have hbind : ∀ {front : Option (List Char)} {length : Nat},
        front.bind (quotedRest? form fuel) = some rest →
        (∀ middle, front = some middle → middle.length ≤ length) → rest.length < length := by
      intro front length h hfront
      obtain ⟨middle, hmiddle, hrest⟩ := Option.bind_eq_some_iff.mp h
      exact (ih hrest).trans_le (hfront middle hmiddle)
    cases cs with
    | nil => cases h
    | cons c cs =>
      simp only [quotedRest?] at h
      split at h
      · exact Option.some.inj h ▸ Nat.lt_succ_of_le (length_dropSuffix_le cs)
      · split at h
        · split at h
          · exact Nat.lt_succ_of_lt (Nat.lt_succ_of_lt (ih h))
          · cases h
        · split at h
          · split at h
            · exact Nat.lt_succ_of_lt (hbind h fun _ => length_le_of_continuedLine?)
            · exact Nat.lt_succ_of_lt (hbind h fun _ => length_le_of_continuedLine?)
            · exact Nat.lt_succ_of_lt
                (hbind h fun _ hescape => (length_lt_of_escapeRest? hescape).le)
          · split at h
            · cases h
            · split at h
              · cases h
              · exact Nat.lt_succ_of_lt (ih h)

theorem length_lt_of_rawRest? {hashes : List Char} (h : rawRest? form hashes cs = some rest) :
    rest.length < cs.length := by
  fun_induction rawRest? form hashes cs with
  | case2 c cs =>
    refine Option.some.inj h ▸ Nat.lt_succ_of_le ((length_dropSuffix_le _).trans ?_)
    exact (List.drop_suffix _ _).length_le
  | case6 c cs _ _ _ _ ih => exact Nat.lt_succ_of_lt (ih h)
  | _ => cases h

theorem length_lt_of_rawLiteral? (h : rawLiteral? form cs = some rest) :
    rest.length < cs.length := by
  revert h
  fun_cases rawLiteral? form cs with
  | case1 hashes tail hdrop => exact fun h => length_lt_of_drop hdrop (length_lt_of_rawRest? h).le
  | _ => exact nofun

theorem length_lt_of_stringRest? {mark : List Char} (h : stringRest? form mark cs = some rest) :
    rest.length < cs.length := by
  revert h
  fun_cases stringRest? form mark cs with
  | case1 _ tail hdrop =>
    exact fun h => length_lt_of_drop hdrop (length_lt_of_quotedRest? h).le
  | case2 _ tail hdrop =>
    exact fun h => length_lt_of_drop hdrop (length_lt_of_rawLiteral? h).le
  | _ => exact nofun

theorem length_lt_of_quotedChar? (h : quotedChar? form cs = some rest) :
    rest.length < cs.length := by
  revert h
  fun_cases quotedChar? form cs with
  | case1 cs => exact fun h => Nat.lt_succ_of_lt (length_lt_of_escapeRest? h)
  | case3 => exact fun h => Option.some.inj h ▸ Nat.lt_succ_self _
  | _ => exact nofun

theorem length_lt_of_charRest? {mark : List Char} (h : charRest? form mark cs = some rest) :
    rest.length < cs.length := by
  revert h
  fun_cases charRest? form mark cs with
  | case1 _ tail hchar =>
    refine fun h => Option.some.inj h ▸ ?_
    calc (dropSuffix tail).length
        ≤ tail.length := length_dropSuffix_le tail
      _ < ('\'' :: tail).length := Nat.lt_succ_self _
      _ < (cs.drop mark.length).length := length_lt_of_quotedChar? hchar
      _ ≤ cs.length := (List.drop_suffix _ _).length_le
  | _ => exact nofun

/-! ### Numbers -/

theorem length_le_of_exponentRest? (h : exponentRest? cs = some rest) :
    rest.length ≤ cs.length := by
  revert h
  fun_cases exponentRest? cs with
  | case1 blank signed digits =>
    have hsign : signed.length ≤ blank.length := by
      unfold signed
      clear_value blank
      split
      · exact Nat.le_succ _
      · exact Nat.le_succ _
      · exact le_refl _
    refine fun h => Option.some.inj h ▸ ?_
    calc (signed.drop digits.length).length
        ≤ signed.length := (List.drop_suffix _ _).length_le
      _ ≤ blank.length := hsign
      _ ≤ cs.length := length_dropWhile_le _ cs
  | _ => exact nofun

/-- A mark that no exponent follows is left. -/
theorem length_getD_exponentRest?_le {mark : Char} {more : List Char} (hcs : cs = mark :: more) :
    ((exponentRest? more).getD cs).length ≤ cs.length := by
  cases hmore : exponentRest? more with
  | none => exact le_refl _
  | some rest => exact hcs ▸ (length_le_of_exponentRest? hmore).trans (Nat.le_succ _)

theorem length_lt_of_floatDigits? (h : floatDigits? cs = some rest) :
    rest.length < cs.length := by
  have hafter : ∀ {c mark : Char} {cs tail : List Char}, cs.dropWhile isNumberChar = mark :: tail →
      tail.length < (c :: cs).length := by
    intro c mark cs tail hmark
    have hlength := length_dropWhile_le isNumberChar cs
    rw [hmark] at hlength
    exact Nat.lt_succ_of_lt hlength
  revert h
  fun_cases floatDigits? cs with
  | case3 c cs _ tail hpoint _ more hmark =>
    refine fun h => Option.some.inj h ▸ (length_getD_exponentRest?_le hmark).trans_lt ?_
    exact (length_dropWhile_le _ tail).trans_lt (hafter hpoint)
  | case4 c cs _ tail hpoint _ more hmark =>
    refine fun h => Option.some.inj h ▸ (length_getD_exponentRest?_le hmark).trans_lt ?_
    exact (length_dropWhile_le _ tail).trans_lt (hafter hpoint)
  | case5 c cs _ tail hpoint =>
    exact fun h => Option.some.inj h ▸ (length_dropWhile_le _ tail).trans_lt (hafter hpoint)
  | case6 c cs _ tail hmark =>
    exact fun h => (length_le_of_exponentRest? h).trans_lt (hafter hmark)
  | case7 c cs _ tail hmark =>
    exact fun h => (length_le_of_exponentRest? h).trans_lt (hafter hmark)
  | _ => exact nofun

theorem length_lt_of_intDigits? (h : intDigits? cs = some rest) : rest.length < cs.length := by
  revert h
  fun_cases intDigits? cs with
  | case2 base digits hbase isDigitOf number tooLarge startsBlank hnumber =>
    have hdigits : digits.length ≤ cs.length := by
      have hmark : ∀ (c d : Char) (tail : List Char), tail.length ≤ (c :: d :: tail).length :=
        fun _ _ tail => (Nat.le_succ _).trans (Nat.le_succ _)
      split at hbase
      · exact (Prod.mk.inj hbase).2 ▸ hmark _ _ _
      · exact (Prod.mk.inj hbase).2 ▸ hmark _ _ _
      · exact (Prod.mk.inj hbase).2 ▸ hmark _ _ _
      · exact (Prod.mk.inj hbase).2 ▸ le_refl _
    have hpos : 0 < number.length := by
      refine List.length_pos_iff.mpr fun hnil => hnumber ?_
      rw [hnil, List.all_nil, Bool.or_true]
    have hle : number.length ≤ digits.length := (List.takeWhile_prefix _).length_le
    refine fun h => Option.some.inj h ▸ ?_
    rw [List.length_drop]
    omega
  | _ => exact nofun

theorem length_lt_of_numberRest? (h : numberRest? cs = some rest) : rest.length < cs.length := by
  have hsuffix : ∀ {digits : Option (List Char)},
      (∀ middle, digits = some middle → middle.length < cs.length) →
      digits.bind (fun middle => wordBreak? (dropSuffix middle)) = some rest →
        rest.length < cs.length := by
    intro digits hdigits h
    obtain ⟨middle, hmiddle, hbreak⟩ := Option.bind_eq_some_iff.mp h
    rw [eq_of_wordBreak? hbreak]
    exact (length_dropSuffix_le middle).trans_lt (hdigits middle hmiddle)
  unfold numberRest? at h
  rcases (Option.orElse_eq_some _ _ _).mp h with hfloat | ⟨-, hint⟩
  · exact hsuffix (fun _ => length_lt_of_floatDigits?) hfloat
  · exact hsuffix (fun _ => length_lt_of_intDigits?) hint

theorem length_lt_of_literalRest? (h : literalRest? cs = some rest) : rest.length < cs.length := by
  simp only [literalRest?, Option.orElse_eq_some] at h
  rcases h with h | ⟨-, h | ⟨-, h | ⟨-, h | ⟨-, h | ⟨-, h⟩⟩⟩⟩⟩
  · exact length_lt_of_stringRest? h
  · exact length_lt_of_stringRest? h
  · exact length_lt_of_stringRest? h
  · exact length_lt_of_charRest? h
  · exact length_lt_of_charRest? h
  · exact length_lt_of_numberRest? h

/-! ### Tokens -/

theorem length_lt_of_punctRest? {c : Char} (h : punctRest? cs = some (c, rest)) :
    rest.length < cs.length := by
  revert h
  fun_cases punctRest? cs with
  | case3 =>
    intro h
    obtain ⟨-, rfl⟩ := Prod.mk.inj (Option.some.inj h)
    exact Nat.lt_succ_self _
  | _ => exact nofun

theorem length_lt_of_anyIdentRest? (h : anyIdentRest? cs = some rest) :
    rest.length < cs.length := by
  revert h
  fun_cases anyIdentRest? cs with
  | case2 _ name tail hname =>
    exact fun h => Option.some.inj h ▸ (length_lt_of_identRest? hname).trans_le
      (List.drop_suffix 2 cs).length_le
  | case4 => exact length_lt_of_identRest?
  | _ => exact nofun

theorem length_lt_of_lifetimeRest? (h : lifetimeRest? cs = some rest) :
    rest.length < cs.length := by
  revert h
  fun_cases lifetimeRest? cs with
  | case2 cs tail hname =>
    exact fun h => Option.some.inj h ▸ Nat.lt_succ_of_lt (length_lt_of_anyIdentRest? hname)
  | _ => exact nofun

/-- A token behind which a group ends. -/
def Lexeme.EndsGroup : Lexeme → Prop
  | .closing _ | .doc _ _ => True
  | _ => False

/-- A leaf takes a character at least, and it ends no group. -/
theorem length_lt_of_leaf? {lexeme : Lexeme} (h : leaf? cs = some (lexeme, rest)) :
    rest.length < cs.length ∧ ¬ lexeme.EndsGroup := by
  revert h
  fun_cases leaf? cs with
  | case1 _ tail hliteral =>
    intro h
    obtain ⟨rfl, rfl⟩ := Prod.mk.inj (Option.some.inj h)
    exact ⟨length_lt_of_literalRest? hliteral, id⟩
  | case2 _ _ tail hlifetime =>
    intro h
    obtain ⟨rfl, rfl⟩ := Prod.mk.inj (Option.some.inj h)
    exact ⟨length_lt_of_lifetimeRest? hlifetime, id⟩
  | case4 _ _ c tail hpunct =>
    intro h
    obtain ⟨rfl, rfl⟩ := Prod.mk.inj (Option.some.inj h)
    exact ⟨length_lt_of_punctRest? hpunct, id⟩
  | case6 =>
    intro h
    obtain ⟨tail, hname, heq⟩ := Option.map_eq_some_iff.mp h
    obtain ⟨rfl, rfl⟩ := Prod.mk.inj heq
    exact ⟨length_lt_of_anyIdentRest? hname, id⟩
  | _ => exact nofun

/-! ### Tokens that end a group -/

/-- What stands in a text before its end `rest` ends with a character that is no line feed. -/
def EndsInLine (cs rest : List Char) : Prop :=
  ∃ front c, cs = front ++ c :: rest ∧ c ≠ '\n'

theorem EndsInLine.length_lt (h : EndsInLine cs rest) : rest.length < cs.length := by
  obtain ⟨front, c, rfl, -⟩ := h
  rw [List.length_append, List.length_cons]
  omega

theorem endsInLine_of_not_mem {front : List Char} (hne : front ≠ []) (hfront : '\n' ∉ front) :
    EndsInLine (front ++ rest) rest := by
  refine ⟨front.dropLast, front.getLast hne, ?_, fun h => hfront (h ▸ List.getLast_mem hne)⟩
  rw [← List.singleton_append, ← List.append_assoc, List.dropLast_append_getLast hne]

theorem endsInLine_of_commentRest? {depth : Nat} (h : commentRest? depth cs = some rest) :
    EndsInLine cs rest := by
  have hcons : ∀ (c : Char) {cs : List Char}, EndsInLine cs rest → EndsInLine (c :: cs) rest :=
    fun c _ ⟨front, d, hfront, hd⟩ => ⟨c :: front, d, congrArg (c :: ·) hfront, hd⟩
  fun_induction commentRest? depth cs with
  | case1 depth cs ih => exact hcons '/' (hcons '*' (ih h))
  | case2 => exact ⟨['*'], '/', Option.some.inj h ▸ rfl, by decide⟩
  | case3 depth cs _ ih => exact hcons '*' (hcons '/' (ih h))
  | case4 depth c cs _ _ ih => exact hcons c (ih h)
  | case5 => cases h

/-- A line is taken without its line feed. -/
theorem exists_of_splitLine (cs : List Char) :
    ∃ front, cs = front ++ (splitLine cs).2 ∧ '\n' ∉ front := by
  fun_induction splitLine cs with
  | case1 => exact ⟨[], rfl, List.not_mem_nil⟩
  | case2 => exact ⟨[], rfl, List.not_mem_nil⟩
  | case3 => exact ⟨['\r'], rfl, by decide⟩
  | case4 c cs hc _ line rest hsplit ih =>
    obtain ⟨front, hfront, hnot⟩ := ih
    rw [hsplit] at hfront
    refine ⟨c :: front, congrArg (c :: ·) hfront, fun hmem => ?_⟩
    rcases List.mem_cons.mp hmem with rfl | hmem
    · exact hc rfl
    · exact hnot hmem

theorem endsInLine_of_docRest? {inner : Bool} {text : List Char}
    (h : docRest? cs = some (inner, text, rest)) : EndsInLine cs rest := by
  have hline : ∀ word : String, word.toList.length = 3 → '\n' ∉ word.toList →
      startsWith word cs = true → rest = (splitLine (cs.drop 3)).2 → EndsInLine cs rest := by
    intro word hlength hword hstarts hrest
    obtain ⟨tail, rfl⟩ := List.isPrefixOf_iff_prefix.mp hstarts
    rw [List.drop_left' hlength] at hrest
    obtain ⟨front, hfront, hnot⟩ := exists_of_splitLine tail
    rw [← hrest] at hfront
    rw [hfront, ← List.append_assoc]
    refine endsInLine_of_not_mem (fun hnil => ?_) fun hmem => ?_
    · rw [(List.append_eq_nil_iff.mp hnil).1] at hlength
      cases hlength
    · exact (List.mem_append.mp hmem).elim hword hnot
  revert h
  fun_cases docRest? cs with
  | case1 line hstarts =>
    intro h
    have hrest : (splitLine (cs.drop 3)).2 = rest :=
      (Prod.mk.inj (Prod.mk.inj (Option.some.inj h)).2).2
    exact hline "//!" rfl (by decide) hstarts hrest.symm
  | case2 =>
    intro h
    obtain ⟨tail, hcomment, heq⟩ := Option.map_eq_some_iff.mp h
    obtain ⟨-, heq⟩ := Prod.mk.inj heq
    obtain ⟨-, rfl⟩ := Prod.mk.inj heq
    exact endsInLine_of_commentRest? hcomment
  | case4 line _ _ hstarts =>
    intro h
    have hrest : (splitLine (cs.drop 3)).2 = rest :=
      (Prod.mk.inj (Prod.mk.inj (Option.some.inj h)).2).2
    exact hline "///" rfl (by decide) hstarts hrest.symm
  | case5 =>
    intro h
    obtain ⟨tail, hcomment, heq⟩ := Option.map_eq_some_iff.mp h
    obtain ⟨-, heq⟩ := Prod.mk.inj heq
    obtain ⟨-, rfl⟩ := Prod.mk.inj heq
    exact endsInLine_of_commentRest? hcomment
  | _ => exact nofun

/-- A token takes a character at least, and one that ends a group ends in a line. -/
theorem length_lt_of_lexeme? {lexeme : Lexeme} (h : lexeme? cs = some (lexeme, rest)) :
    rest.length < cs.length ∧ (lexeme.EndsGroup → EndsInLine cs rest) := by
  revert h
  fun_cases lexeme? cs with
  | case2 inner text tail _ hdoc =>
    intro h
    obtain ⟨rfl, rfl⟩ := Prod.mk.inj (Option.some.inj h)
    have hends := endsInLine_of_docRest? hdoc
    exact ⟨hends.length_lt, fun _ => hends⟩
  | case4 c cs d =>
    intro h
    obtain ⟨rfl, rfl⟩ := Prod.mk.inj (Option.some.inj h)
    exact ⟨Nat.lt_succ_self _, fun hends => hends.elim⟩
  | case5 c cs _ d hclosing =>
    intro h
    obtain ⟨rfl, rfl⟩ := Prod.mk.inj (Option.some.inj h)
    refine ⟨Nat.lt_succ_self _, fun _ => ⟨[], c, rfl, ?_⟩⟩
    rintro rfl
    cases hclosing
  | case6 c cs =>
    intro h
    obtain ⟨hlength, hleaf⟩ := length_lt_of_leaf? h
    exact ⟨hlength, fun hends => absurd hends hleaf⟩
  | _ => exact nofun

end RestClient.Code
