import ResourceMeter.Proofs.Json.Grammar

/-!
# Written counts

`Outline.IsCount` says that a value is written as the digits of a number below `2 ^ 64` and in no
other way, `Outline.NoCount` lists what a value is that is not written so: a number with a sign, a
fraction or an exponent, a number that is too great, or no number. The codec of counts reads exactly
the former, as that number (`Codec.isCount_of_uint64`), and never the latter
(`Outline.NoCount.decode_ne`).
-/

namespace ResourceMeter.Json

open Decimal (Numeral)

/-! ## The digits of a number -/

namespace Token

/-- The value of a digit is below ten. -/
theorem digitValue_lt {c : Char} (h : c.isDigit = true) : c.toNat - '0'.toNat < 10 := by
  have hbounds := Char.isDigit_iff_toNat.1 h
  have hzero : '0'.toNat = 48 := rfl
  have hnine : '9'.toNat = 57 := rfl
  omega

/-- A digit is the one that writes its value. -/
theorem toDigits_of_isDigit {c : Char} (h : c.isDigit = true) :
    Nat.toDigits 10 (c.toNat - '0'.toNat) = [c] := by
  have hzero : '0'.toNat = 48 := rfl
  have hlow := (Char.isDigit_iff_toNat.1 h).1
  rw [Nat.toDigits_of_lt_base (digitValue_lt h)]
  refine congrArg (fun d => [d]) (Char.toNat_inj.1 ?_)
  rw [Nat.toNat_digitChar_of_lt_ten (digitValue_lt h)]
  omega

/-- Digits behind those of a number that is not zero go on with it. -/
theorem toDigits_append {cs : List Char} (hcs : ∀ c ∈ cs, c.isDigit = true) {n : Nat}
    (hn : 0 < n) : Nat.toDigits 10 n ++ cs =
      Nat.toDigits 10 ((digitValues cs).foldl (fun n digit => 10 * n + digit) n) := by
  induction cs generalizing n with
  | nil => exact List.append_nil _
  | cons c cs ih =>
    obtain ⟨hc, hcs⟩ := List.forall_mem_cons.1 hcs
    calc Nat.toDigits 10 n ++ c :: cs
        = Nat.toDigits 10 n ++ Nat.toDigits 10 (c.toNat - '0'.toNat) ++ cs := by
          rw [toDigits_of_isDigit hc, List.append_assoc, List.singleton_append]
      _ = Nat.toDigits 10 (10 * n + (c.toNat - '0'.toNat)) ++ cs := by
          rw [Nat.toDigits_append_toDigits (by decide) hn (digitValue_lt hc)]
      _ = Nat.toDigits 10 ((digitValues (c :: cs)).foldl (fun n digit => 10 * n + digit) n) :=
          ih hcs (by omega)

/-- Digits that do not begin with a zero in front of others are those of the number they write. -/
theorem eq_toDigits {cs : List Char} (hdigits : Digits cs)
    (hlead : cs.head? = some '0' → cs.length = 1) :
    cs = Nat.toDigits 10 (Numeral.ofDigits (digitValues cs)) := by
  obtain ⟨c, cs, rfl⟩ := List.exists_cons_of_ne_nil hdigits.ne_nil
  obtain ⟨hc, hcs⟩ := List.forall_mem_cons.1 hdigits.isDigit
  have hvalue : Numeral.ofDigits (digitValues (c :: cs)) =
      (digitValues cs).foldl (fun n digit => 10 * n + digit) (c.toNat - '0'.toNat) := by
    unfold Numeral.ofDigits
    rw [digitValues, List.map_cons, List.foldl_cons, Nat.mul_zero, Nat.zero_add]
    rfl
  have hdigit := toDigits_of_isDigit hc
  rw [hvalue]
  by_cases hzero : c.toNat - '0'.toNat = 0
  · rw [hzero] at hdigit ⊢
    obtain rfl : '0' = c := (List.cons.inj hdigit).1
    obtain rfl : cs = [] := List.length_eq_zero_iff.1 (Nat.succ.inj (hlead rfl))
    rfl
  · rw [← toDigits_append hcs (Nat.pos_of_ne_zero hzero), hdigit, List.singleton_append]

/-- Without digits there is no fraction. -/
theorem FractionText.eq_nil {cs : List Char} {f : List Nat} (h : FractionText cs f)
    (hf : f = []) : cs = [] := by
  cases h with
  | absent => rfl
  | digits hcs => exact absurd (List.map_eq_nil_iff.1 hf) hcs.ne_nil

/-- Without a value there is no exponent. -/
theorem ExponentText.eq_nil {cs : List Char} {e : Option Int} (h : ExponentText cs e)
    (he : e = none) : cs = [] := by
  induction h with
  | absent => rfl
  | unsigned | plus | minus => cases he
  | capital _ ih => exact absurd (ih he) (List.cons_ne_nil _ _)

/-- The text of a number without sign, fraction and exponent consists of the digits of its value. -/
theorem NumberText.eq_toDigits {cs : List Char} {n : Numeral} (h : NumberText cs n)
    (hnegative : n.negative = false) (hfraction : n.fraction = []) (hexponent : n.exponent = none) :
    cs = Nat.toDigits 10 (Numeral.ofDigits n.whole) := by
  cases h with
  | negative h =>
    cases h
    cases hnegative
  | positive h =>
    cases h with
    | intro hdigits hlead fractionText exponentText =>
      rw [fractionText.eq_nil hfraction, exponentText.eq_nil hexponent, List.append_nil,
        List.append_nil]
      exact Token.eq_toDigits hdigits hlead

end Token

open Token

/-! ## Counts in a text -/

/-- The value is written as the digits of a number below `2 ^ 64`, and in no other way. -/
def Outline.IsCount (outline : Outline) (n : Nat) : Prop :=
  n < UInt64.size ∧ ∃ token, outline = .leaf token ∧ ∀ cs, Lexeme cs token ↔ cs = Nat.toDigits 10 n

/-- The value is no number, or a number with a sign, a fraction or an exponent, or one that is too
great. -/
inductive Outline.NoCount : Outline → Prop
  | noNumber {outline : Outline} : (∀ n, outline ≠ .leaf (.number n)) → NoCount outline
  | negative {n : Numeral} : n.negative = true → NoCount (.leaf (.number n))
  | fraction {n : Numeral} : n.fraction ≠ [] → NoCount (.leaf (.number n))
  | exponent {n : Numeral} : n.exponent ≠ none → NoCount (.leaf (.number n))
  | tooGreat {n : Numeral} : UInt64.size ≤ Numeral.ofDigits n.whole → NoCount (.leaf (.number n))

namespace Codec

/-- A number is a count if it has neither sign nor fraction nor exponent and fits into a word. -/
theorem kind_eq_count_iff {n : Numeral} {k : Nat} : n.kind = .count k ↔
    n.negative = false ∧ n.fraction = [] ∧ n.exponent = none ∧ Numeral.ofDigits n.whole = k ∧
      k < Numeral.wordSize := by
  unfold Numeral.kind
  dsimp only
  split
  · next h =>
    obtain ⟨hfraction, hexponent, hnegative, hsmall⟩ := h
    constructor
    · intro h
      cases h
      exact ⟨hnegative, List.isEmpty_iff.1 hfraction, Option.isNone_iff_eq_none.1 hexponent, rfl,
        hsmall⟩
    · rintro ⟨-, -, -, rfl, -⟩
      rfl
  · next h =>
    constructor
    · intro hk
      split at hk
      · cases hk
      · split at hk <;> cases hk
    · rintro ⟨hnegative, hfraction, hexponent, rfl, hsmall⟩
      exact absurd ⟨List.isEmpty_iff.2 hfraction, Option.isNone_iff_eq_none.2 hexponent, hnegative,
        hsmall⟩ h

/-- The codec of counts reads digits without sign, fraction and exponent as the number they write,
if it is below `2 ^ 64`. -/
theorem uint64_decode_eq_ok_iff {outline : Outline} {count : UInt64} :
    uint64.decode outline = .ok count ↔ ∃ n : Numeral, outline = .leaf (.number n) ∧
      n.negative = false ∧ n.fraction = [] ∧ n.exponent = none ∧
      Numeral.ofDigits n.whole = count.toNat := by
  constructor
  · intro h
    change (decodeCount UInt64.size "u64" outline).map UInt64.ofNat = _ at h
    unfold decodeCount at h
    split at h
    · next n =>
      split at h
      · next k hk =>
        split at h
        · next hsmall =>
          cases h
          obtain ⟨hnegative, hfraction, hexponent, hvalue, -⟩ := kind_eq_count_iff.1 hk
          refine ⟨n, rfl, hnegative, hfraction, hexponent, hvalue.trans ?_⟩
          exact (UInt64.toNat_ofNat_of_lt hsmall).symm
        · cases h
      · cases h
      · cases h
      · cases h
    · cases h
  · rintro ⟨n, rfl, hnegative, hfraction, hexponent, hvalue⟩
    have hkind : n.kind = .count count.toNat :=
      kind_eq_count_iff.2 ⟨hnegative, hfraction, hexponent, hvalue, count.toNat_lt⟩
    show (decodeCount UInt64.size "u64" (.leaf (.number n))).map UInt64.ofNat = _
    unfold decodeCount
    dsimp only
    rw [hkind]
    dsimp only
    rw [if_pos count.toNat_lt]
    exact congrArg Except.ok UInt64.ofNat_toNat

/-- What is read as a count is written as its digits. -/
theorem isCount_of_uint64 {outline : Outline} {count : UInt64}
    (h : uint64.decode outline = .ok count)
    (htext : ∀ token ∈ outline.spelling, ∃ cs, Lexeme cs token) : outline.IsCount count.toNat := by
  obtain ⟨n, rfl, hnegative, hfraction, hexponent, hvalue⟩ := uint64_decode_eq_ok_iff.1 h
  have hdigits {cs : List Char} (hcs : Lexeme cs (.number n)) :
      cs = Nat.toDigits 10 count.toNat := by
    cases hcs with
    | number hnumber => rw [hnumber.eq_toDigits hnegative hfraction hexponent, hvalue]
  obtain ⟨cs, hcs⟩ := htext _ (List.mem_singleton_self _)
  refine ⟨count.toNat_lt, _, rfl, fun ds => ⟨hdigits, ?_⟩⟩
  rintro rfl
  rwa [← hdigits hcs]

end Codec

/-- What is no count is not read as one. -/
theorem Outline.NoCount.decode_ne {outline : Outline} (h : outline.NoCount) (count : UInt64) :
    Codec.uint64.decode outline ≠ .ok count := by
  intro hread
  obtain ⟨n, rfl, hnegative, hfraction, hexponent, hvalue⟩ :=
    Codec.uint64_decode_eq_ok_iff.1 hread
  cases h with
  | noNumber h => exact h n rfl
  | negative h => exact Bool.false_ne_true (hnegative.symm.trans h)
  | fraction h => exact h hfraction
  | exponent h => exact h hexponent
  | tooGreat h =>
    rw [hvalue] at h
    exact absurd count.toNat_lt (Nat.not_lt.2 h)

end ResourceMeter.Json
