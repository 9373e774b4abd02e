import Mathlib.Data.List.Basic
import Mathlib.Tactic.SplitIfs
import ResourceMeter.Json.Token
import ResourceMeter.Json.Printer

/-!
# Written numbers

`Json.Token.NumberText` is the grammar of numbers: digits without a zero in front of others, perhaps
a fraction, perhaps an exponent. It holds the parts of the number next to its text.
`Json.Token.next?_append` says that a number is read as these parts, up to a text that does not go
on with it, and `Json.Token.numberText_layout` that every decimal is written as a number, whatever
its layout.
-/

namespace ResourceMeter.Json.Token

open Decimal (Numeral Layout digits zeros)

/-! ## The grammar of numbers -/

/-- A run of digits, of which there is at least one. -/
structure Digits (cs : List Char) : Prop where
  ne_nil : cs ≠ []
  isDigit : ∀ c ∈ cs, c.isDigit = true

/-- The values of digits. -/
def digitValues (cs : List Char) : List Nat :=
  cs.map fun c => c.toNat - '0'.toNat

/-- A fraction, or none, with its digits. -/
inductive FractionText : List Char → List Nat → Prop
  | absent : FractionText [] []
  | digits {cs : List Char} : Digits cs → FractionText ('.' :: cs) (digitValues cs)

/-- An exponent, or none, with its value. -/
inductive ExponentText : List Char → Option Int → Prop
  | absent : ExponentText [] none
  | unsigned {cs : List Char} : Digits cs →
      ExponentText ('e' :: cs) (some (Numeral.ofDigits (digitValues cs)))
  | plus {cs : List Char} : Digits cs →
      ExponentText ('e' :: '+' :: cs) (some (Numeral.ofDigits (digitValues cs)))
  | minus {cs : List Char} : Digits cs →
      ExponentText ('e' :: '-' :: cs) (some (-(Numeral.ofDigits (digitValues cs) : Int)))
  | capital {cs : List Char} {e : Option Int} : ExponentText ('e' :: cs) e →
      ExponentText ('E' :: cs) e

/-- An unsigned number with its parts. No zero leads other digits. -/
inductive UnsignedText (negative : Bool) : List Char → Numeral → Prop
  | intro {whole fraction exponent : List Char} {f : List Nat} {e : Option Int} :
      Digits whole → (whole.head? = some '0' → whole.length = 1) → FractionText fraction f →
      ExponentText exponent e →
      UnsignedText negative (whole ++ (fraction ++ exponent)) ⟨negative, digitValues whole, f, e⟩

/-- A number with its parts. -/
inductive NumberText : List Char → Numeral → Prop
  | positive {cs : List Char} {n : Numeral} : UnsignedText false cs n → NumberText cs n
  | negative {cs : List Char} {n : Numeral} : UnsignedText true cs n → NumberText ('-' :: cs) n

/-- A text that does not go on with a number that stands in front of it. -/
def EndsNumber (rest : List Char) : Prop :=
  ∀ c ∈ rest.head?, c.isDigit = false ∧ c ≠ '.' ∧ c ≠ 'e' ∧ c ≠ 'E'

/-! ## Numbers are read as they are written -/

/-- Digits are read up to the first character that is none. -/
theorem leadingDigits_append {cs rest : List Char} (hcs : ∀ c ∈ cs, c.isDigit = true)
    (hrest : ∀ c ∈ rest.head?, c.isDigit = false) :
    leadingDigits (cs ++ rest) = (digitValues cs, rest) := by
  have hnone : rest.takeWhile Char.isDigit = [] ∧ rest.dropWhile Char.isDigit = rest := by
    cases rest with
    | nil => exact ⟨rfl, rfl⟩
    | cons c rest =>
      have hc : c.isDigit = false := hrest c rfl
      rw [List.takeWhile_cons, List.dropWhile_cons, hc]
      exact ⟨rfl, rfl⟩
  unfold leadingDigits
  rw [List.takeWhile_append_of_pos hcs, List.dropWhile_append_of_pos hcs, hnone.1, hnone.2,
    List.append_nil]
  rfl

/-- The values of a run of digits are not empty. -/
theorem Digits.isEmpty_digitValues {cs : List Char} (h : Digits cs) :
    (digitValues cs).isEmpty = false := by
  rw [List.isEmpty_eq_false_iff]
  unfold digitValues
  rw [Ne, List.map_eq_nil_iff]
  exact h.ne_nil

/-- A fraction is read up to the first character that is no digit. -/
theorem fraction?_append {cs rest : List Char} {f : List Nat} (h : FractionText cs f)
    (hdigit : ∀ c ∈ rest.head?, c.isDigit = false) (hpoint : ∀ c ∈ rest.head?, c ≠ '.') :
    fraction? (cs ++ rest) = some (f, rest) := by
  cases h with
  | absent =>
    rw [List.nil_append, fraction?.eq_def]
    split
    · next tail => exact absurd rfl (hpoint '.' rfl)
    · rfl
  | digits hcs =>
    rw [List.cons_append, fraction?, leadingDigits_append hcs.isDigit hdigit]
    dsimp only
    rw [hcs.isEmpty_digitValues]
    rfl

/-- The digits of an exponent without a sign are read up to the first character that is none. -/
theorem signedDigits?_append {cs rest : List Char} (hcs : Digits cs)
    (hdigit : ∀ c ∈ rest.head?, c.isDigit = false) :
    signedDigits? (cs ++ rest) = some ((Numeral.ofDigits (digitValues cs) : Int), rest) := by
  obtain ⟨c, tail, rfl⟩ := List.exists_cons_of_ne_nil hcs.ne_nil
  have hc : c.isDigit = true := hcs.isDigit c (List.mem_cons_self ..)
  have hread := leadingDigits_append hcs.isDigit hdigit
  rw [signedDigits?.eq_def]
  split
  · next heq =>
    obtain ⟨rfl, -⟩ := List.cons.inj heq
    cases hc
  · next heq =>
    obtain ⟨rfl, -⟩ := List.cons.inj heq
    cases hc
  · rw [hread]
    dsimp only
    rw [hcs.isEmpty_digitValues]
    rfl

/-- A capital mark is read like a small one. -/
theorem exponent?_capital (rest : List Char) :
    exponent? ('E' :: rest) = exponent? ('e' :: rest) := by
  rw [exponent?, exponent?, if_pos (.inr rfl), if_pos (.inl rfl)]

/-- An exponent is read up to the first character that is no digit. -/
theorem exponent?_append {cs rest : List Char} {e : Option Int} (h : ExponentText cs e)
    (hrest : EndsNumber rest) : exponent? (cs ++ rest) = some (e, rest) := by
  have hdigit : ∀ c ∈ rest.head?, c.isDigit = false := fun c hc => (hrest c hc).1
  induction h with
  | absent =>
    cases rest with
    | nil => rfl
    | cons c rest =>
      obtain ⟨-, -, he, hE⟩ := hrest c rfl
      rw [List.nil_append, exponent?, if_neg (not_or.2 ⟨he, hE⟩)]
  | unsigned hcs =>
    rw [List.cons_append, exponent?, if_pos (.inl rfl), signedDigits?_append hcs hdigit]
    rfl
  | plus hcs | minus hcs =>
    rw [List.cons_append, exponent?, if_pos (.inl rfl), List.cons_append, signedDigits?,
      leadingDigits_append hcs.isDigit hdigit]
    dsimp only
    rw [hcs.isEmpty_digitValues]
    rfl
  | capital _ ih =>
    rw [List.cons_append, exponent?_capital, ← List.cons_append]
    exact ih

/-- What an exponent begins with is neither a digit nor a point. -/
theorem ExponentText.head_append {cs rest : List Char} {e : Option Int} (h : ExponentText cs e)
    (hrest : EndsNumber rest) : ∀ c ∈ (cs ++ rest).head?, c.isDigit = false ∧ c ≠ '.' := by
  cases h with
  | absent => exact fun c hc => ⟨(hrest c hc).1, (hrest c hc).2.1⟩
  | unsigned _ | plus _ | minus _ =>
    intro c hc
    obtain rfl : 'e' = c := Option.some.inj hc
    decide
  | capital _ =>
    intro c hc
    obtain rfl : 'E' = c := Option.some.inj hc
    decide

/-- What a fraction begins with is no digit. -/
theorem FractionText.head_append {cs rest : List Char} {f : List Nat} (h : FractionText cs f)
    (hrest : ∀ c ∈ rest.head?, c.isDigit = false) :
    ∀ c ∈ (cs ++ rest).head?, c.isDigit = false := by
  cases h with
  | absent => exact hrest
  | digits _ =>
    intro c hc
    obtain rfl : '.' = c := Option.some.inj hc
    decide

/-- An unsigned number is read with its parts. -/
theorem numeral?_append {negative : Bool} {cs rest : List Char} {n : Numeral}
    (h : UnsignedText negative cs n) (hrest : EndsNumber rest) :
    numeral? negative (cs ++ rest) = some (n, rest) := by
  cases h with
  | @intro whole fraction exponent f e hwhole hlead hfraction hexponent =>
    have hafter := hexponent.head_append hrest
    have hdigits : leadingDigits (whole ++ (fraction ++ (exponent ++ rest))) =
        (digitValues whole, fraction ++ (exponent ++ rest)) :=
      leadingDigits_append hwhole.isDigit (hfraction.head_append fun c hc => (hafter c hc).1)
    have hzero : ¬ ((digitValues whole).isEmpty = true ∨
        ((digitValues whole).head? = some 0 ∧ 1 < (digitValues whole).length)) := by
      rw [hwhole.isEmpty_digitValues]
      rintro (hempty | ⟨hhead, hlength⟩)
      · cases hempty
      · obtain ⟨c, tail, rfl⟩ := List.exists_cons_of_ne_nil hwhole.ne_nil
        have hvalue : c.toNat - '0'.toNat = 0 := Option.some.inj hhead
        have hc : c.isDigit = true := hwhole.isDigit c (List.mem_cons_self ..)
        have hc0 : c = '0' := by
          rw [Char.isDigit_iff_toNat] at hc
          exact Char.toNat_inj.1 (by omega)
        have hone := hlead (congrArg some hc0)
        unfold digitValues at hlength
        rw [List.length_map] at hlength
        omega
    rw [List.append_assoc, List.append_assoc]
    unfold numeral?
    rw [hdigits]
    dsimp only
    rw [if_neg hzero, fraction?_append hfraction (fun c hc => (hafter c hc).1)
      fun c hc => (hafter c hc).2]
    show (exponent? (exponent ++ rest)).bind _ = _
    rw [exponent?_append hexponent hrest]
    rfl

/-- A digit starts an unsigned number. -/
theorem next?_of_isDigit {c : Char} (hc : c.isDigit = true) (rest : List Char) :
    next? (c :: rest) = (numeral? false (c :: rest)).map fun (n, rest) => (.number n, rest) := by
  rw [next?.eq_def]
  split
  all_goals first
    | rfl
    | next heq => obtain ⟨rfl, -⟩ := List.cons.inj heq; cases hc

/-- A number is read with its parts. -/
theorem next?_append {cs rest : List Char} {n : Numeral} (h : NumberText cs n)
    (hrest : EndsNumber rest) : next? (cs ++ rest) = some (.number n, rest) := by
  cases h with
  | positive h =>
    have hread := numeral?_append h hrest
    cases h with
    | @intro whole fraction exponent _ _ hwhole _ _ _ =>
      obtain ⟨c, tail, rfl⟩ := List.exists_cons_of_ne_nil hwhole.ne_nil
      have hc : c.isDigit = true := hwhole.isDigit c (List.mem_cons_self ..)
      rw [List.cons_append, List.cons_append] at hread ⊢
      rw [next?_of_isDigit hc, hread]
      rfl
  | negative h =>
    rw [List.cons_append, next?, numeral?_append h hrest]
    rfl

/-! ## Digits -/

/-- The digits of a number are digits. -/
theorem digits_toDigits (n : Nat) : Digits (Nat.toDigits 10 n) :=
  ⟨Nat.toDigits_ne_nil, fun _ hc => Nat.isDigit_of_mem_toDigits (by decide) (by decide) hc⟩

/-- The digits of a number, taken together, are that number. -/
theorem ofDigits_digitValues (n : Nat) :
    Numeral.ofDigits (digitValues (Nat.toDigits 10 n)) = n := by
  unfold Numeral.ofDigits digitValues
  rw [List.foldl_map]
  exact Nat.ofDigitChars_toDigits (by decide) (by decide)

/-- A number begins with a zero only if it is zero. -/
theorem head?_toDigits_ne_zero {n : Nat} (h : n ≠ 0) : (Nat.toDigits 10 n).head? ≠ some '0' := by
  induction n using Nat.strongRecOn with
  | ind n ih =>
    rcases Nat.lt_or_ge n 10 with hlt | hge
    · rw [Nat.toDigits_of_lt_base hlt]
      intro hhead
      exact h (Nat.digitChar_eq_zero.1 (Option.some.inj hhead))
    · rw [Nat.toDigits_of_base_le (by decide) hge, List.head?_append,
        List.head?_eq_some_head Nat.toDigits_ne_nil, Option.some_or,
        ← List.head?_eq_some_head Nat.toDigits_ne_nil]
      exact ih (n / 10) (by omega) (by omega)

/-- Digits on both sides of a point are a number. -/
theorem UnsignedText.point {negative : Bool} {whole fraction : List Char} (hwhole : Digits whole)
    (hlead : whole.head? = some '0' → whole.length = 1) (hfraction : Digits fraction) :
    UnsignedText negative (whole ++ '.' :: fraction)
      ⟨negative, digitValues whole, digitValues fraction, none⟩ := by
  have h : UnsignedText negative _ _ := .intro hwhole hlead (.digits hfraction) .absent
  rwa [List.append_nil] at h

/-- Digits alone are a number. -/
theorem UnsignedText.integer {negative : Bool} {whole : List Char} (hwhole : Digits whole)
    (hlead : whole.head? = some '0' → whole.length = 1) :
    UnsignedText negative whole ⟨negative, digitValues whole, [], none⟩ := by
  have h : UnsignedText negative _ _ := .intro hwhole hlead .absent .absent
  rwa [List.append_nil, List.append_nil] at h

/-- The numeral of a count. -/
def countNumeral (n : Nat) : Numeral :=
  ⟨false, digitValues (Nat.toDigits 10 n), [], none⟩

/-- A count is written as a number. -/
theorem numberText_digits (n : Nat) : NumberText (digits n).toList (countNumeral n) := by
  have hdigits : (digits n).toList = Nat.toDigits 10 n := Nat.toList_repr
  rw [hdigits]
  refine .positive (.integer (digits_toDigits n) fun hhead => ?_)
  by_cases h : n = 0
  · rw [h]; rfl
  · exact absurd hhead (head?_toDigits_ne_zero h)

/-- A count that fits into a word is read as that count. -/
theorem kind_countNumeral {n : Nat} (h : n < Numeral.wordSize) :
    (countNumeral n).kind = .count n := by
  have hvalue : Numeral.ofDigits (countNumeral n).whole = n := ofDigits_digitValues n
  unfold Numeral.kind
  rw [hvalue]
  exact if_pos ⟨rfl, rfl, rfl, h⟩

/-! ## Decimals in a layout -/

/-- A single zero. -/
theorem digits_zero : Digits ['0'] :=
  ⟨List.cons_ne_nil _ _, fun c hc => by rw [List.mem_singleton.1 hc]; rfl⟩

/-- Digits behind digits are digits. -/
theorem Digits.append {cs ds : List Char} (hcs : Digits cs)
    (hds : ∀ c ∈ ds, c.isDigit = true) : Digits (cs ++ ds) := by
  refine ⟨List.append_ne_nil_of_left_ne_nil hcs.ne_nil ds, fun c hc => ?_⟩
  rcases List.mem_append.1 hc with hc | hc
  · exact hcs.isDigit c hc
  · exact hds c hc

/-- The first of several digits are digits. -/
theorem Digits.take {cs : List Char} (hcs : Digits cs) {k : Nat} (hk : 0 < k) :
    Digits (cs.take k) := by
  refine ⟨?_, fun c hc => hcs.isDigit c (List.mem_of_mem_take hc)⟩
  rw [Ne, List.take_eq_nil_iff, not_or]
  exact ⟨Nat.pos_iff_ne_zero.1 hk, hcs.ne_nil⟩

/-- The digits behind the first ones are digits. -/
theorem Digits.drop {cs : List Char} (hcs : Digits cs) {k : Nat} (hk : k < cs.length) :
    Digits (cs.drop k) := by
  refine ⟨?_, fun c hc => hcs.isDigit c (List.mem_of_mem_drop hc)⟩
  rw [Ne, List.drop_eq_nil_iff]
  exact Nat.not_le.2 hk

/-- Zeros are digits. -/
theorem isDigit_of_mem_zeros {n : Nat} : ∀ c ∈ (zeros n).toList, c.isDigit = true := by
  intro c hc
  unfold zeros at hc
  rw [String.toList_ofList] at hc
  rw [List.eq_of_mem_replicate hc]
  decide

/-- A number without a zero in front, cut off behind some digits, has none in front either. -/
theorem head?_take_toDigits {n k : Nat} (h : n ≠ 0) (hk : 0 < k) :
    ((Nat.toDigits 10 n).take k).head? ≠ some '0' := by
  rw [List.head?_take, if_neg (Nat.pos_iff_ne_zero.1 hk)]
  exact head?_toDigits_ne_zero h

/-- The positional text of a decimal that is not zero is a number. -/
theorem unsignedText_positional (negative : Bool) (layout : Layout) {d : Decimal}
    (h : d.significand ≠ 0) :
    ∃ n, UnsignedText negative (layout.positionalText d).toList n := by
  have hdigits := digits_toDigits d.significand
  have htext : (digits d.significand).toList = Nat.toDigits 10 d.significand := Nat.toList_repr
  have hpadded (k : Nat) : Digits (Nat.toDigits 10 d.significand ++ (zeros k).toList) :=
    hdigits.append isDigit_of_mem_zeros
  have hlead (k : Nat) : (Nat.toDigits 10 d.significand ++ (zeros k).toList).head? = some '0' →
      (Nat.toDigits 10 d.significand ++ (zeros k).toList).length = 1 := by
    intro hhead
    rw [List.head?_append_of_ne_nil _ hdigits.ne_nil] at hhead
    exact absurd hhead (head?_toDigits_ne_zero h)
  unfold Layout.positionalText
  dsimp only
  split_ifs with hsmall hlarge hpoint
  · -- The point stands before all digits.
    have hfraction : Digits ((zeros (-d.point).toNat).toList ++ Nat.toDigits 10 d.significand) :=
      ⟨List.append_ne_nil_of_right_ne_nil _ hdigits.ne_nil, fun c hc =>
        (List.mem_append.1 hc).elim (isDigit_of_mem_zeros c) (hdigits.isDigit c)⟩
    rw [String.toList_append, String.toList_append, htext, List.append_assoc]
    have hfinal : UnsignedText negative _ _ := .point digits_zero (fun _ => rfl) hfraction
    exact ⟨_, hfinal⟩
  · -- The point stands behind all digits, and is written.
    rw [String.toList_append, String.toList_append, htext]
    exact ⟨_, .point (hpadded _) (hlead _) digits_zero⟩
  · -- The point stands behind all digits, and is not written.
    rw [String.toList_append, String.toList_append, htext]
    have hnothing : "".toList = [] := rfl
    rw [hnothing, List.append_nil]
    exact ⟨_, .integer (hpadded _) (hlead _)⟩
  · -- The point stands among the digits.
    have hlength : (digits d.significand).length = (Nat.toDigits 10 d.significand).length := by
      rw [← htext, String.length_toList]
    have hhead : ((Nat.toDigits 10 d.significand).take d.point.toNat).head? ≠ some '0' :=
      head?_take_toDigits h (by omega)
    have hfinal : UnsignedText negative _ _ := .point
      (hdigits.take (k := d.point.toNat) (by omega)) (fun h0 => absurd h0 hhead)
      (hdigits.drop (k := d.point.toNat) (by omega))
    simp only [String.toList_append, String.toList_ofList, htext, List.append_assoc]
    exact ⟨_, hfinal⟩

/-- The scientific text of a decimal that is not zero is a number. -/
theorem unsignedText_scientific (negative : Bool) (layout : Layout) {d : Decimal}
    (h : d.significand ≠ 0) :
    ∃ n, UnsignedText negative (layout.scientificText d).toList n := by
  have hdigits := digits_toDigits d.significand
  have htext : (digits d.significand).toList = Nat.toDigits 10 d.significand := Nat.toList_repr
  have hwhole : Digits ((Nat.toDigits 10 d.significand).take 1) := hdigits.take Nat.one_pos
  have hfraction : ∃ f, FractionText (if (Nat.toDigits 10 d.significand).length ≤ 1 then ""
      else "." ++ String.ofList ((Nat.toDigits 10 d.significand).drop 1)).toList f := by
    split_ifs with hlength
    · exact ⟨_, .absent⟩
    · have hfinal := FractionText.digits (hdigits.drop (k := 1) (by omega))
      simp only [String.toList_append, String.toList_ofList]
      exact ⟨_, hfinal⟩
  have hexponent : ∃ e, ExponentText ((if d.point - 1 < 0 then "e-" else
      if layout.plusSign then "e+" else "e") ++ digits (d.point - 1).natAbs).toList e := by
    have hnumber : (digits (d.point - 1).natAbs).toList = Nat.toDigits 10 (d.point - 1).natAbs :=
      Nat.toList_repr
    rw [String.toList_append, hnumber]
    split_ifs
    · exact ⟨_, .minus (digits_toDigits _)⟩
    · exact ⟨_, .plus (digits_toDigits _)⟩
    · exact ⟨_, .unsigned (digits_toDigits _)⟩
  obtain ⟨f, hfraction⟩ := hfraction
  obtain ⟨e, hexponent⟩ := hexponent
  have hfinal : UnsignedText negative _ _ := .intro hwhole
    (fun hhead => absurd hhead (head?_take_toDigits h Nat.one_pos)) hfraction hexponent
  unfold Layout.scientificText
  dsimp only
  rw [String.append_assoc, String.append_assoc, String.toList_append, String.toList_append,
    String.toList_ofList, htext]
  exact ⟨_, hfinal⟩

/-- Every decimal is written as a number, whatever its layout. -/
theorem numberText_layout (layout : Layout) (negative : Bool) (d : Decimal) :
    ∃ n, NumberText (layout.text negative d).toList n := by
  have hunsigned : ∀ cs : String, (∃ n, UnsignedText negative cs.toList n) →
      ∃ n, NumberText (Decimal.sign negative ++ cs).toList n := by
    rintro cs ⟨n, hn⟩
    rw [String.toList_append]
    cases negative with
    | false => exact ⟨n, .positive hn⟩
    | true => exact ⟨n, .negative hn⟩
  unfold Layout.text
  refine hunsigned _ ?_
  split_ifs with hzero hpoint
  · have hfinal : UnsignedText negative _ _ := .point digits_zero (fun _ => rfl) digits_zero
    exact ⟨_, hfinal⟩
  · have hfinal : UnsignedText negative _ _ := .integer digits_zero fun _ => rfl
    exact ⟨_, hfinal⟩
  · split
    · exact unsignedText_positional negative layout hzero
    · split_ifs
      · exact unsignedText_positional negative layout hzero
      · exact unsignedText_scientific negative layout hzero

end ResourceMeter.Json.Token
