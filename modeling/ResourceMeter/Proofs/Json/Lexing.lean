import Mathlib.Data.List.TakeWhile
import ResourceMeter.Proofs.Json.NumberText
import ResourceMeter.Proofs.Json.StringText

/-!
# The tokens of a text

`Json.Token.Lexeme` says which characters write a token, and `Json.Token.Spells` that a text spells
some tokens: their lexemes, one after the other, with blanks in any place between them. A text is
split into exactly the tokens that it spells (`Token.Spells.ofText_eq`), and if nothing is bad among
the tokens into which it is split, then it spells them (`Token.spells_ofText`).
-/

namespace ResourceMeter.Json.Token

open Decimal (Numeral)

/-! ## Blanks and tokens -/

/-- No token starts with a blank. -/
theorem next?_of_isBlank {c : Char} (hc : isBlank c = true) (rest : List Char) :
    next? (c :: rest) = none := by
  unfold isBlank at hc
  simp only [Bool.or_eq_true, decide_eq_true_eq] at hc
  obtain ((rfl | rfl) | rfl) | rfl := hc <;> rfl

/-- A token and what is behind it. -/
theorem ofText_of_next? {cs rest : List Char} {token : Token}
    (h : next? cs = some (token, rest)) : ofText cs = token :: ofText rest := by
  cases cs with
  | nil => cases h
  | cons c tail =>
    have hc : ¬ isBlank c = true := by
      intro hc
      rw [next?_of_isBlank hc] at h
      cases h
    rw [ofText, if_neg hc]
    split
    · next token' rest' heq =>
      rw [h] at heq
      cases heq
      rfl
    · next heq =>
      rw [h] at heq
      cases heq

/-- Blanks are dropped. -/
theorem ofText_blanks {blanks : List Char} (h : ∀ c ∈ blanks, isBlank c = true)
    (rest : List Char) : ofText (blanks ++ rest) = ofText rest := by
  induction blanks with
  | nil => rfl
  | cons c blanks ih =>
    rw [List.cons_append, ofText, if_pos (h c (List.mem_cons_self ..))]
    exact ih fun c hc => h c (List.mem_cons_of_mem _ hc)

/-- Nothing of a number stands in front of the end of a text. -/
theorem EndsNumber.nil : EndsNumber [] := nofun

/-- A comma, a bracket or a brace ends a number. -/
theorem EndsNumber.cons {c : Char} (h : c = ',' ∨ c = ']' ∨ c = '\x7d') (rest : List Char) :
    EndsNumber (c :: rest) := by
  intro d hd
  obtain rfl : c = d := Option.some.inj hd
  obtain rfl | rfl | rfl := h <;> decide

/-- Blanks end a number. -/
theorem EndsNumber.blanks {blanks rest : List Char} (h : ∀ c ∈ blanks, isBlank c = true)
    (hrest : EndsNumber rest) : EndsNumber (blanks ++ rest) := by
  cases blanks with
  | nil => exact hrest
  | cons c blanks =>
    intro d hd
    obtain rfl : c = d := Option.some.inj hd
    have hc : isBlank c = true := h c (List.mem_cons_self ..)
    unfold isBlank at hc
    simp only [Bool.or_eq_true, decide_eq_true_eq] at hc
    obtain ((rfl | rfl) | rfl) | rfl := hc <;> decide

/-! ## Lexemes -/

/-- What stands between the quotes of a string, with the codes that it writes. -/
inductive StringBody : List Char → List Nat → Prop
  | nil : StringBody [] []
  | plain {c : Char} {cs : List Char} {codes : List Nat} : 0x20 ≤ c.toNat → c ≠ '"' → c ≠ '\\' →
      StringBody cs codes → StringBody (c :: cs) (c.toNat :: codes)
  | escape {c : Char} {code : Nat} {cs : List Char} {codes : List Nat} :
      escapeCode? c = some code → StringBody cs codes → StringBody ('\\' :: c :: cs) (code :: codes)
  | unicode {a b c d : Char} {code : Nat} {cs : List Char} {codes : List Nat} :
      hexCode? a b c d = some code → StringBody cs codes →
      StringBody ('\\' :: 'u' :: a :: b :: c :: d :: cs) (code :: codes)

/-- The characters that write a token. -/
inductive Lexeme : List Char → Token → Prop
  | openList : Lexeme ['['] .openList
  | closeList : Lexeme [']'] .closeList
  | openObject : Lexeme ['\x7b'] .openObject
  | closeObject : Lexeme ['\x7d'] .closeObject
  | comma : Lexeme [','] .comma
  | colon : Lexeme [':'] .colon
  | null : Lexeme ['n', 'u', 'l', 'l'] .null
  | yes : Lexeme ['t', 'r', 'u', 'e'] (.bool true)
  | no : Lexeme ['f', 'a', 'l', 's', 'e'] (.bool false)
  | number {cs : List Char} {n : Numeral} : NumberText cs n → Lexeme cs (.number n)
  | string {cs characters : List Char} {codes : List Nat} : StringBody cs codes →
      characters? codes = some characters →
      Lexeme ('"' :: (cs ++ ['"'])) (.string (String.ofList characters))
  | brokenString {cs : List Char} {codes : List Nat} : StringBody cs codes →
      characters? codes = none → Lexeme ('"' :: (cs ++ ['"'])) .brokenString

/-- The text consists of the tokens, with blanks between them. A number has to end where it does. -/
inductive Spells : List Char → List Token → Prop
  | nil : Spells [] []
  | blank {c : Char} {cs : List Char} {tokens : List Token} : isBlank c = true → Spells cs tokens →
      Spells (c :: cs) tokens
  | token {lexeme cs : List Char} {token : Token} {tokens : List Token} : Lexeme lexeme token →
      (∀ n, token = .number n → EndsNumber cs) → Spells cs tokens →
      Spells (lexeme ++ cs) (token :: tokens)

/-! ## What is spelled is read -/

/-- The body of a string is read as its codes, up to the closing quote. -/
theorem StringBody.stringCodes? {cs : List Char} {codes : List Nat} (h : StringBody cs codes)
    (rest : List Char) : stringCodes? (cs ++ '"' :: rest) = some (codes, rest) := by
  induction h with
  | nil => rfl
  | @plain c cs codes hcontrol hquote hbackslash _ ih =>
    rw [List.cons_append, Token.stringCodes?.eq_def]
    split
    · next heq => cases heq
    · next heq => exact absurd (List.cons.inj heq).1 hquote
    · next heq => exact absurd (List.cons.inj heq).1 hbackslash
    · next heq => exact absurd (List.cons.inj heq).1 hbackslash
    · next heq =>
      obtain ⟨rfl, rfl⟩ := List.cons.inj heq
      rw [if_neg (not_or.2 ⟨Nat.not_lt.2 hcontrol, hbackslash⟩), ih]
      rfl
  | @escape c code cs codes hcode _ ih =>
    have hletter : c ≠ 'u' := by
      rintro rfl
      cases hcode
    rw [List.cons_append, List.cons_append, Token.stringCodes?.eq_def]
    split
    · next heq => cases heq
    · next heq => cases heq
    · next heq => exact absurd (List.cons.inj (List.cons.inj heq).2).1 hletter
    · next heq =>
      obtain ⟨rfl, rfl⟩ := List.cons.inj (List.cons.inj heq).2
      rw [hcode, ih]
      rfl
    · next hother heq =>
      obtain ⟨rfl, rfl⟩ := List.cons.inj heq
      exact absurd rfl (hother _ _ rfl)
  | @unicode a b c d code cs codes hcode _ ih =>
    simp only [List.cons_append]
    rw [Token.stringCodes?, hcode, ih]
    rfl

/-- A token is read from its lexeme. -/
theorem Lexeme.next? {lexeme rest : List Char} {token : Token} (h : Lexeme lexeme token)
    (hrest : ∀ n, token = .number n → EndsNumber rest) :
    next? (lexeme ++ rest) = some (token, rest) := by
  cases h with
  | number h => exact next?_append h (hrest _ rfl)
  | @string cs characters codes hbody hcharacters =>
    rw [List.cons_append, List.append_assoc, List.singleton_append, Token.next?,
      hbody.stringCodes?, Option.map_some]
    dsimp only
    rw [hcharacters]
  | @brokenString cs codes hbody hcharacters =>
    rw [List.cons_append, List.append_assoc, List.singleton_append, Token.next?,
      hbody.stringCodes?, Option.map_some]
    dsimp only
    rw [hcharacters]
  | _ => rfl

/-- A text is split into the tokens that it spells. -/
theorem Spells.ofText_eq {cs : List Char} {tokens : List Token} (h : Spells cs tokens) :
    ofText cs = tokens := by
  induction h with
  | nil => rw [ofText]
  | @blank c cs tokens hblank _ ih =>
    rw [ofText, if_pos hblank]
    exact ih
  | token hlexeme hend _ ih => rw [ofText_of_next? (hlexeme.next? hend), ih]

/-! ## What is read is spelled -/

/-- The text starts with no digit. -/
def NoDigitAhead (text : List Char) : Prop :=
  ∀ c ∈ text.head?, c.isDigit = false

/-- The leading digits of a text are digits in front of a text that starts with none. -/
theorem leadingDigits_sound (text : List Char) : ∃ cs rest, text = cs ++ rest ∧
    (∀ c ∈ cs, c.isDigit = true) ∧ NoDigitAhead rest ∧
    leadingDigits text = (digitValues cs, rest) := by
  refine ⟨text.takeWhile Char.isDigit, text.dropWhile Char.isDigit,
    (List.takeWhile_append_dropWhile).symm, fun c hc => List.mem_takeWhile_imp hc, ?_, rfl⟩
  intro c hc
  induction text with
  | nil => cases hc
  | cons d text ih =>
    rw [List.dropWhile_cons] at hc
    split at hc
    · exact ih hc
    · next hd =>
      obtain rfl : d = c := Option.some.inj hc
      exact Bool.eq_false_iff.2 hd

/-- Digits of which there is one are a run of digits. -/
theorem digits_of_isEmpty {cs : List Char} (hdigit : ∀ c ∈ cs, c.isDigit = true)
    (h : ¬ (digitValues cs).isEmpty = true) : Digits cs := by
  refine ⟨?_, hdigit⟩
  rintro rfl
  exact h rfl

/-- A fraction that is read is written as one. -/
theorem fraction?_sound {text rest : List Char} {f : List Nat} (htext : NoDigitAhead text)
    (h : fraction? text = some (f, rest)) :
    ∃ cs, text = cs ++ rest ∧ FractionText cs f ∧ NoDigitAhead rest := by
  unfold fraction? at h
  split at h
  · next tail =>
    obtain ⟨cs, rest', rfl, hdigit, hend, hread⟩ := leadingDigits_sound tail
    rw [hread] at h
    dsimp only at h
    split at h
    · cases h
    · next hempty =>
      cases h
      exact ⟨'.' :: cs, rfl, .digits (digits_of_isEmpty hdigit hempty), hend⟩
  · cases h
    exact ⟨[], rfl, .absent, htext⟩

/-- The digits of an exponent that is read are written with their sign. -/
theorem signedDigits?_sound {text rest : List Char} {e : Int}
    (h : signedDigits? text = some (e, rest)) :
    ∃ cs, text = cs ++ rest ∧ ExponentText ('e' :: cs) (some e) ∧ NoDigitAhead rest := by
  unfold signedDigits? at h
  split at h
  · next tail =>
    obtain ⟨cs, rest', rfl, hdigit, hend, hread⟩ := leadingDigits_sound tail
    rw [hread] at h
    dsimp only at h
    split at h
    · cases h
    · next hempty =>
      cases h
      exact ⟨'+' :: cs, rfl, .plus (digits_of_isEmpty hdigit hempty), hend⟩
  · next tail =>
    obtain ⟨cs, rest', rfl, hdigit, hend, hread⟩ := leadingDigits_sound tail
    rw [hread] at h
    dsimp only at h
    split at h
    · cases h
    · next hempty =>
      cases h
      exact ⟨'-' :: cs, rfl, .minus (digits_of_isEmpty hdigit hempty), hend⟩
  · obtain ⟨cs, rest', rfl, hdigit, hend, hread⟩ := leadingDigits_sound text
    rw [hread] at h
    dsimp only at h
    split at h
    · cases h
    · next hempty =>
      cases h
      exact ⟨cs, rfl, .unsigned (digits_of_isEmpty hdigit hempty), hend⟩

/-- An exponent that is read is written as one. -/
theorem exponent?_sound {text rest : List Char} {e : Option Int} (htext : NoDigitAhead text)
    (h : exponent? text = some (e, rest)) :
    ∃ cs, text = cs ++ rest ∧ ExponentText cs e ∧ NoDigitAhead rest := by
  unfold exponent? at h
  split at h
  · next c tail =>
    split at h
    · next hmark =>
      obtain ⟨⟨value, rest'⟩, hread, heq⟩ := Option.map_eq_some_iff.1 h
      cases heq
      obtain ⟨cs, rfl, hexponent, hend⟩ := signedDigits?_sound hread
      rcases hmark with rfl | rfl
      · exact ⟨_, rfl, hexponent, hend⟩
      · exact ⟨_, rfl, .capital hexponent, hend⟩
    · cases h
      exact ⟨[], rfl, .absent, htext⟩
  · cases h
    exact ⟨[], rfl, .absent, htext⟩

/-- A number that is read is written as one. -/
theorem numeral?_sound {negative : Bool} {text rest : List Char} {n : Numeral}
    (h : numeral? negative text = some (n, rest)) :
    ∃ cs, text = cs ++ rest ∧ UnsignedText negative cs n ∧ NoDigitAhead rest := by
  obtain ⟨whole, behind, rfl, hdigit, hend, hread⟩ := leadingDigits_sound text
  unfold numeral? at h
  rw [hread] at h
  dsimp only at h
  split at h
  · cases h
  · next hwhole =>
    obtain ⟨hempty, hzero⟩ := not_or.1 hwhole
    obtain ⟨⟨f, afterFraction⟩, hfraction, h⟩ := Option.bind_eq_some_iff.1 h
    obtain ⟨⟨e, afterExponent⟩, hexponent, h⟩ := Option.bind_eq_some_iff.1 h
    cases h
    obtain ⟨fraction, rfl, fractionText, hend⟩ := fraction?_sound hend hfraction
    obtain ⟨exponent, rfl, exponentText, hend⟩ := exponent?_sound hend hexponent
    refine ⟨whole ++ (fraction ++ exponent), by simp only [List.append_assoc],
      .intro (digits_of_isEmpty hdigit hempty) (fun hhead => ?_) fractionText exponentText, hend⟩
    obtain ⟨tail, rfl⟩ := List.head?_eq_some_iff.1 hhead
    by_contra hlength
    refine hzero ⟨rfl, ?_⟩
    unfold digitValues
    rw [List.length_map]
    rw [List.length_cons] at hlength ⊢
    omega

/-- A code in front of codes that are read. -/
theorem of_push?_eq_some {code? : Option Nat} {tail : Option (List Nat × List Char)}
    {codes : List Nat} {rest : List Char} (h : push? code? tail = some (codes, rest)) :
    ∃ code codes', code? = some code ∧ tail = some (codes', rest) ∧ codes = code :: codes' := by
  unfold push? at h
  split at h
  · cases h
    exact ⟨_, _, rfl, rfl, rfl⟩
  · cases h

/-- The codes of a string that are read are written up to a quote. -/
theorem stringCodes?_sound {text rest : List Char} {codes : List Nat}
    (h : Token.stringCodes? text = some (codes, rest)) :
    ∃ cs, text = cs ++ '"' :: rest ∧ StringBody cs codes := by
  fun_induction Token.stringCodes? text generalizing codes rest with
  | case1 => cases h
  | case2 =>
    cases h
    exact ⟨[], rfl, .nil⟩
  | case3 a b c d tail ih =>
    obtain ⟨code, codes', hcode, htail, rfl⟩ := of_push?_eq_some h
    obtain ⟨cs, rfl, hbody⟩ := ih htail
    exact ⟨_, rfl, .unicode hcode hbody⟩
  | case4 c tail _ ih =>
    obtain ⟨code, codes', hcode, htail, rfl⟩ := of_push?_eq_some h
    obtain ⟨cs, rfl, hbody⟩ := ih htail
    exact ⟨_, rfl, .escape hcode hbody⟩
  | case5 => cases h
  | case6 c tail hquote _ _ hplain ih =>
    obtain ⟨code, codes', hcode, htail, rfl⟩ := of_push?_eq_some h
    cases hcode
    obtain ⟨cs, rfl, hbody⟩ := ih htail
    obtain ⟨hcontrol, hbackslash⟩ := not_or.1 hplain
    exact ⟨_, rfl, .plain (Nat.not_lt.1 hcontrol) hquote hbackslash hbody⟩

/-- A token that is read has its lexeme in front of the rest, and is not followed by a digit if it
is a number. -/
theorem next?_sound {text rest : List Char} {token : Token}
    (h : Token.next? text = some (token, rest)) : ∃ lexeme, text = lexeme ++ rest ∧
      Lexeme lexeme token ∧ ∀ n, token = .number n → NoDigitAhead rest := by
  fun_cases Token.next? text with
  | case1 | case2 | case3 | case4 | case5 | case6 | case7 | case8 | case9 =>
    cases h
    exact ⟨_, rfl, by constructor, fun _ hnumber => by cases hnumber⟩
  | case10 tail =>
    obtain ⟨⟨codes, behind⟩, hcodes, heq⟩ := Option.map_eq_some_iff.1 h
    obtain ⟨cs, rfl, hbody⟩ := stringCodes?_sound hcodes
    dsimp only at heq
    refine ⟨'"' :: (cs ++ ['"']), ?_, ?_⟩
    · cases heq
      simp only [List.cons_append, List.append_assoc, List.nil_append]
    · split at heq
      · next characters hcharacters =>
        cases heq
        exact ⟨.string hbody hcharacters, fun _ hnumber => by cases hnumber⟩
      · next hcharacters =>
        cases heq
        exact ⟨.brokenString hbody hcharacters, fun _ hnumber => by cases hnumber⟩
  | case11 tail =>
    obtain ⟨⟨n, behind⟩, hread, heq⟩ := Option.map_eq_some_iff.1 h
    cases heq
    obtain ⟨cs, rfl, hnumber, hend⟩ := numeral?_sound hread
    exact ⟨_, rfl, .number (.negative hnumber), fun _ _ => hend⟩
  | case12 =>
    rw [Token.next?] at h <;> try assumption
    obtain ⟨⟨n, behind⟩, hread, heq⟩ := Option.map_eq_some_iff.1 h
    cases heq
    obtain ⟨cs, rfl, hnumber, hend⟩ := numeral?_sound hread
    exact ⟨_, rfl, .number (.positive hnumber), fun _ _ => hend⟩

/-- No token starts with a point or with the mark of an exponent. -/
theorem ofText_of_goesOn {c : Char} (h : c = '.' ∨ c = 'e' ∨ c = 'E') (rest : List Char) :
    ofText (c :: rest) = [.bad] := by
  have hread : Token.next? (c :: rest) = none := by
    obtain rfl | rfl | rfl := h <;> rfl
  have hblank : ¬ isBlank c = true := by
    obtain rfl | rfl | rfl := h <;> decide
  rw [ofText, if_neg hblank]
  split
  · next heq =>
    rw [hread] at heq
    cases heq
  · rfl

/-- If nothing is bad in a text, it spells the tokens into which it is split. -/
theorem spells_ofText {text : List Char} (h : .bad ∉ ofText text) : Spells text (ofText text) := by
  fun_induction ofText text with
  | case1 => exact .nil
  | case2 c rest hblank ih => exact .blank hblank (ih h)
  | case3 c rest hblank token behind hread ih =>
    obtain ⟨-, hbehind⟩ := not_or.1 (mt List.mem_cons.2 h)
    obtain ⟨lexeme, htext, hlexeme, hend⟩ := next?_sound hread
    rw [htext]
    refine .token hlexeme (fun n hn c hc => ⟨hend n hn c hc, ?_⟩) (ih hbehind)
    obtain ⟨tail, rfl⟩ := List.head?_eq_some_iff.1 hc
    rw [← not_or, ← not_or]
    intro hgoesOn
    rw [ofText_of_goesOn hgoesOn] at hbehind
    exact hbehind (List.mem_singleton_self _)
  | case4 c rest hblank hread => exact absurd (List.mem_singleton_self _) h

/-- Every token that is spelled has a lexeme. -/
theorem Spells.exists_lexeme {cs : List Char} {tokens : List Token} (h : Spells cs tokens)
    {token : Token} (hmem : token ∈ tokens) : ∃ lexeme, Lexeme lexeme token := by
  induction h with
  | nil => cases hmem
  | blank _ _ ih => exact ih hmem
  | token hlexeme _ _ ih =>
    rcases List.mem_cons.1 hmem with rfl | hmem
    · exact ⟨_, hlexeme⟩
    · exact ih hmem

end ResourceMeter.Json.Token
