import ResourceMeter.Decimal.Numeral

/-!
# The tokens of a JSON text

`Token.ofText` splits a text into tokens and drops the blanks between them. A character sequence
that is no token becomes the token `bad`, with which the list ends: nothing after it is ever read.

A string whose escapes are well formed but do not spell characters, because one half of a surrogate
pair stands alone, is the token `brokenString`: it can be skipped but not read.
-/

namespace ResourceMeter.Json

open Decimal (Numeral)

/-- A token of a JSON text. -/
inductive Token where
  | openList
  | closeList
  | openObject
  | closeObject
  | comma
  | colon
  | null
  | bool (b : Bool)
  | number (n : Numeral)
  | string (s : String)
  | brokenString
  | bad
  deriving DecidableEq

namespace Token

/-- The four blanks of JSON. -/
def isBlank (c : Char) : Bool :=
  c = ' ' || c = '\n' || c = '\t' || c = '\r'

/-- The value of a digit in base sixteen. -/
def hexDigit? (c : Char) : Option Nat :=
  if '0' ≤ c ∧ c ≤ '9' then some (c.toNat - '0'.toNat)
  else if 'a' ≤ c ∧ c ≤ 'f' then some (c.toNat - 'a'.toNat + 10)
  else if 'A' ≤ c ∧ c ≤ 'F' then some (c.toNat - 'A'.toNat + 10)
  else none

/-- The value of four digits in base sixteen. -/
def hexCode? (a b c d : Char) : Option Nat := do
  let a ← hexDigit? a
  let b ← hexDigit? b
  let c ← hexDigit? c
  let d ← hexDigit? d
  return ((a * 16 + b) * 16 + c) * 16 + d

/-- The code that a letter stands for behind a backslash. -/
def escapeCode? (c : Char) : Option Nat :=
  match c with
  | '"' => some 0x22
  | '\\' => some 0x5C
  | '/' => some 0x2F
  | 'b' => some 0x08
  | 'f' => some 0x0C
  | 'n' => some 0x0A
  | 'r' => some 0x0D
  | 't' => some 0x09
  | _ => none

/-- A code in front of the codes that are still to come. -/
def push? : Option Nat → Option (List Nat × List Char) → Option (List Nat × List Char)
  | some code, some (codes, rest) => some (code :: codes, rest)
  | _, _ => none

/-- The codes of a string behind its opening quote, and the text behind the closing quote. A code
from `0xD800` to `0xDFFF` is half of a surrogate pair. -/
def stringCodes? : List Char → Option (List Nat × List Char)
  | [] => none
  | '"' :: rest => some ([], rest)
  | '\\' :: 'u' :: a :: b :: c :: d :: rest => push? (hexCode? a b c d) (stringCodes? rest)
  | '\\' :: c :: rest => push? (escapeCode? c) (stringCodes? rest)
  | c :: rest =>
    if c.toNat < 0x20 ∨ c = '\\' then none else push? (some c.toNat) (stringCodes? rest)

/-- The characters that the codes spell, where the first half of a surrogate pair has to be followed
by the second. -/
def characters? : List Nat → Option (List Char)
  | [] => some []
  | code :: codes =>
    if code < 0xD800 ∨ 0xE000 ≤ code then (characters? codes).map (Char.ofNat code :: ·)
    else match codes with
      | [] => none
      | low :: codes =>
        if code < 0xDC00 ∧ 0xDC00 ≤ low ∧ low < 0xE000 then
          (characters? codes).map
            (Char.ofNat (0x10000 + (code - 0xD800) * 0x400 + (low - 0xDC00)) :: ·)
        else none

/-- The values of the digits in front of a text, and the text behind them. -/
def leadingDigits (text : List Char) : List Nat × List Char :=
  ((text.takeWhile Char.isDigit).map fun c => c.toNat - '0'.toNat, text.dropWhile Char.isDigit)

/-- The fraction in front of a text: a point and at least one digit, or nothing. -/
def fraction? : List Char → Option (List Nat × List Char)
  | '.' :: rest =>
    let (digits, rest) := leadingDigits rest
    if digits.isEmpty then none else some (digits, rest)
  | rest => some ([], rest)

/-- The exponent behind its mark: a sign or none, and at least one digit. -/
def signedDigits? : List Char → Option (Int × List Char)
  | '+' :: rest =>
    let (digits, rest) := leadingDigits rest
    if digits.isEmpty then none else some (Numeral.ofDigits digits, rest)
  | '-' :: rest =>
    let (digits, rest) := leadingDigits rest
    if digits.isEmpty then none else some (-(Numeral.ofDigits digits : Int), rest)
  | rest =>
    let (digits, rest) := leadingDigits rest
    if digits.isEmpty then none else some (Numeral.ofDigits digits, rest)

/-- The exponent in front of a text, or nothing. -/
def exponent? : List Char → Option (Option Int × List Char)
  | c :: rest =>
    if c = 'e' ∨ c = 'E' then (signedDigits? rest).map fun (n, rest) => (some n, rest)
    else some (none, c :: rest)
  | [] => some (none, [])

/-- The unsigned number in front of a text: no zero leads other digits. -/
def numeral? (negative : Bool) (text : List Char) : Option (Numeral × List Char) := do
  let (whole, rest) := leadingDigits text
  if whole.isEmpty ∨ (whole.head? = some 0 ∧ 1 < whole.length) then none
  else
    let (fraction, rest) ← fraction? rest
    let (exponent, rest) ← exponent? rest
    return (⟨negative, whole, fraction, exponent⟩, rest)

/-- The token in front of a text that does not start with a blank, and the text behind it. -/
def next? : List Char → Option (Token × List Char)
  | '[' :: rest => some (.openList, rest)
  | ']' :: rest => some (.closeList, rest)
  | '\x7b' :: rest => some (.openObject, rest)
  | '\x7d' :: rest => some (.closeObject, rest)
  | ',' :: rest => some (.comma, rest)
  | ':' :: rest => some (.colon, rest)
  | 'n' :: 'u' :: 'l' :: 'l' :: rest => some (.null, rest)
  | 't' :: 'r' :: 'u' :: 'e' :: rest => some (.bool true, rest)
  | 'f' :: 'a' :: 'l' :: 's' :: 'e' :: rest => some (.bool false, rest)
  | '"' :: rest => (stringCodes? rest).map fun (codes, rest) =>
    (match characters? codes with
      | some cs => .string (String.ofList cs)
      | none => .brokenString, rest)
  | '-' :: rest => (numeral? true rest).map fun (n, rest) => (.number n, rest)
  | text => (numeral? false text).map fun (n, rest) => (.number n, rest)

/-! ## Every token takes at least one character -/

/-- If a code point is put in front, there is something behind it. -/
theorem push?_eq_some {code? : Option Nat} {tail : Option (List Nat × List Char)}
    {codes : List Nat} {rest : List Char} (h : push? code? tail = some (codes, rest)) :
    ∃ codes, tail = some (codes, rest) := by
  unfold push? at h
  split at h
  · next tailCodes tailRest => exact ⟨tailCodes, by simp_all⟩
  · simp at h

/-- A string takes at least its closing quote. -/
theorem stringCodes?_length {text rest : List Char} {codes : List Nat}
    (h : stringCodes? text = some (codes, rest)) : rest.length < text.length := by
  fun_induction stringCodes? text generalizing codes rest with
  | case1 => simp at h
  | case2 => simp_all
  | case3 a b c d tail ih =>
    obtain ⟨codes, h⟩ := push?_eq_some h
    have := ih h
    simp only [List.length_cons]; omega
  | case4 c tail _ ih =>
    obtain ⟨codes, h⟩ := push?_eq_some h
    have := ih h
    simp only [List.length_cons]; omega
  | case5 => simp at h
  | case6 c tail _ _ _ _ ih =>
    obtain ⟨codes, h⟩ := push?_eq_some h
    have := ih h
    simp only [List.length_cons]; omega

/-- Digits leave no more than there was. -/
theorem leadingDigits_length (text : List Char) :
    (leadingDigits text).2.length ≤ text.length :=
  (List.dropWhile_suffix _).length_le

/-- Digits that are there are taken. -/
theorem leadingDigits_length_lt {text : List Char} (h : (leadingDigits text).1 ≠ []) :
    (leadingDigits text).2.length < text.length := by
  cases text with
  | nil => simp [leadingDigits] at h
  | cons c rest =>
    by_cases digit : c.isDigit
    · have := (List.dropWhile_suffix Char.isDigit (l := rest)).length_le
      simp [leadingDigits, List.dropWhile, digit]; omega
    · simp [leadingDigits, List.takeWhile, digit] at h

/-- A fraction leaves no more than there was. -/
theorem fraction?_length {text rest : List Char} {digits : List Nat}
    (h : fraction? text = some (digits, rest)) : rest.length ≤ text.length := by
  unfold fraction? at h
  split at h
  · next tail =>
    have := leadingDigits_length tail
    grind
  · grind

/-- An exponent with a sign leaves no more than there was. -/
theorem signedDigits?_length {text rest : List Char} {n : Int}
    (h : signedDigits? text = some (n, rest)) : rest.length ≤ text.length := by
  unfold signedDigits? at h
  split at h
  · next tail => have := leadingDigits_length tail; grind
  · next tail => have := leadingDigits_length tail; grind
  · have := leadingDigits_length text; grind

/-- An exponent that may be missing leaves no more than there was. -/
theorem exponent?_length {text rest : List Char} {n : Option Int}
    (h : exponent? text = some (n, rest)) : rest.length ≤ text.length := by
  unfold exponent? at h
  split at h
  · next c tail =>
    split at h
    · obtain ⟨⟨m, r⟩, hm, hr⟩ := Option.map_eq_some_iff.1 h
      have := signedDigits?_length hm
      grind
    · grind
  · grind

/-- A number takes at least one digit. -/
theorem numeral?_length {negative : Bool} {text rest : List Char} {n : Numeral}
    (h : numeral? negative text = some (n, rest)) : rest.length < text.length := by
  unfold numeral? at h
  by_cases bad : (leadingDigits text).1 = [] ∨
      ((leadingDigits text).1.head? = some 0 ∧ 1 < (leadingDigits text).1.length)
  · simp [bad] at h
  · have start : (leadingDigits text).2.length < text.length :=
      leadingDigits_length_lt (by grind)
    simp only [List.isEmpty_iff, bad, if_false] at h
    obtain ⟨⟨fraction, afterFraction⟩, hf, h⟩ := Option.bind_eq_some_iff.1 h
    obtain ⟨⟨exponent, afterExponent⟩, he, h⟩ := Option.bind_eq_some_iff.1 h
    have := fraction?_length hf
    have := exponent?_length he
    grind

/-- What is behind a token is shorter. -/
theorem next?_length {text rest : List Char} {token : Token}
    (h : next? text = some (token, rest)) : rest.length < text.length := by
  fun_cases next? text with
  | case1 | case2 | case3 | case4 | case5 | case6 | case7 | case8 | case9 =>
    obtain ⟨-, rfl⟩ := Prod.mk.inj (Option.some.inj h)
    simp only [List.length_cons]; omega
  | case10 =>
    obtain ⟨⟨_, _⟩, read, same⟩ := Option.map_eq_some_iff.1 h
    obtain ⟨-, rfl⟩ := Prod.mk.inj same
    exact Nat.lt_succ_of_lt (stringCodes?_length read)
  | case11 =>
    obtain ⟨⟨_, _⟩, read, same⟩ := Option.map_eq_some_iff.1 h
    obtain ⟨-, rfl⟩ := Prod.mk.inj same
    exact Nat.lt_succ_of_lt (numeral?_length read)
  | case12 =>
    rw [next?] at h <;> try assumption
    obtain ⟨⟨_, _⟩, read, same⟩ := Option.map_eq_some_iff.1 h
    obtain ⟨-, rfl⟩ := Prod.mk.inj same
    exact numeral?_length read

/-- The tokens of a text. -/
def ofText : List Char → List Token
  | [] => []
  | c :: rest =>
    if isBlank c then ofText rest
    else match _h : next? (c :: rest) with
      | some (token, rest) => token :: ofText rest
      | none => [.bad]
termination_by text => text.length
decreasing_by
  · simp
  · exact next?_length ‹_›

end Token

end ResourceMeter.Json
