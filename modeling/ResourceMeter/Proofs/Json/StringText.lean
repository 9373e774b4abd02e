import Mathlib.Tactic.SplitIfs
import ResourceMeter.Json.Outline
import ResourceMeter.Json.Printer

/-!
# Written strings

A string is written with escapes and read as codes, from which its characters are spelled again.
`Json.Token.next?_stringText` says that what is written is read as the token of the same string,
whatever characters the string has: no character is half of a surrogate pair, so the codes spell
exactly these characters.
-/

namespace ResourceMeter.Json.Token

/-- A digit in base sixteen is read as its value. -/
theorem hexDigit?_digitChar {n : Nat} (h : n < 16) : hexDigit? n.digitChar = some n := by
  have hall : ∀ n < 16, hexDigit? n.digitChar = some n := by decide
  exact hall n h

/-- The code of a control character, as it is written, is read as that code. -/
theorem hexCode?_digitChar {n : Nat} (h : n < 0x20) :
    hexCode? '0' '0' (n / 16).digitChar (n % 16).digitChar = some n := by
  have hhigh : hexDigit? (n / 16).digitChar = some (n / 16) := hexDigit?_digitChar (by omega)
  have hlow : hexDigit? (n % 16).digitChar = some (n % 16) := hexDigit?_digitChar (by omega)
  have hzero : hexDigit? '0' = some 0 := by decide
  unfold hexCode?
  rw [hzero, hhigh, hlow]
  show some _ = some n
  congr 1
  omega

/-- A character, as it is written, is read as its own code. -/
theorem stringCodes?_escapedChar (c : Char) (rest : List Char) :
    stringCodes? (escapedChar c ++ rest) = push? (some c.toNat) (stringCodes? rest) := by
  unfold escapedChar
  split_ifs with hquote hb hf hn hr ht hcontrol
  · rcases hquote with rfl | rfl <;> rfl
  · rw [hb]; rfl
  · rw [hf]; rfl
  · rw [hn]; rfl
  · rw [hr]; rfl
  · rw [ht]; rfl
  · show push? (hexCode? '0' '0' _ _) _ = _
    rw [hexCode?_digitChar hcontrol]
    rfl
  · rw [not_or] at hquote
    rw [List.singleton_append, stringCodes?.eq_def]
    split
    · next h => cases h
    · next h => exact absurd (List.cons.inj h).1 hquote.1
    · next h => exact absurd (List.cons.inj h).1 hquote.2
    · next h => exact absurd (List.cons.inj h).1 hquote.2
    · next h =>
      obtain ⟨rfl, rfl⟩ := List.cons.inj h
      rw [if_neg (not_or.2 ⟨hcontrol, hquote.2⟩)]

/-- The characters of a string, as they are written up to the closing quote, are read as their
codes. -/
theorem stringCodes?_flatMap_escapedChar (cs rest : List Char) :
    stringCodes? (cs.flatMap escapedChar ++ '"' :: rest) = some (cs.map Char.toNat, rest) := by
  induction cs with
  | nil => rw [List.flatMap_nil, List.nil_append, stringCodes?]; rfl
  | cons c cs ih =>
    rw [List.flatMap_cons, List.append_assoc, stringCodes?_escapedChar, ih]
    rfl

/-- No character has the code of half a surrogate pair. -/
theorem not_surrogate (c : Char) : c.toNat < 0xD800 ∨ 0xE000 ≤ c.toNat := by
  rcases c.valid with h | ⟨h, -⟩
  · exact .inl h
  · exact .inr h

/-- The codes of characters spell these characters. -/
theorem characters?_map_toNat (cs : List Char) : characters? (cs.map Char.toNat) = some cs := by
  induction cs with
  | nil => rw [List.map_nil, characters?]
  | cons c cs ih =>
    rw [List.map_cons, characters?.eq_def]
    dsimp only
    rw [if_pos (not_surrogate c), ih, Option.map_some, Char.ofNat_toNat]

/-- A string, as it is written, is the token of that string. -/
theorem next?_stringText (s : String) (rest : List Char) :
    next? (stringText s ++ rest) = some (.string s, rest) := by
  have hcodes := stringCodes?_flatMap_escapedChar s.toList rest
  have htext : stringText s ++ rest = '"' :: (s.toList.flatMap escapedChar ++ '"' :: rest) := by
    unfold stringText
    rw [List.cons_append, List.cons_append, List.append_assoc, List.singleton_append]
  rw [htext, next?, hcodes, Option.map_some]
  dsimp only
  rw [characters?_map_toNat]
  dsimp only
  rw [String.ofList_toList]

end ResourceMeter.Json.Token
