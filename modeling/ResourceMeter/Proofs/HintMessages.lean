import ResourceMeter.Hint
import ResourceMeter.Proofs.Json.NumberText

/-!
# The messages of hints

A template can be written as one text, with a placeholder where something is filled in.
`HintRule.filled` fills in the placeholders of such a text one after the other, wherever each of
them stands, and `HintRule.message_eq_filled` says that the message of every rule of the table is
made that way. Neither percentages nor labels hold a brace, so no placeholder is left and none
comes in with what is filled in (`HintRule.not_infix_message`).
-/

namespace ResourceMeter

/-! ## Number texts -/

namespace Decimal

variable {c : Char}

/-- The digits of a number are digits. -/
theorem isDigit_of_mem_digits {n : Nat} (h : c ∈ (digits n).toList) : c.isDigit = true := by
  rw [show (digits n).toList = Nat.toDigits 10 n from Nat.toList_repr] at h
  exact Nat.isDigit_of_mem_toDigits (by decide) (by decide) h

/-- A sign is a minus, if it is written. -/
theorem eq_of_mem_sign {negative : Bool} (h : c ∈ (sign negative).toList) : c = '-' := by
  cases negative with
  | true => exact List.mem_singleton.1 h
  | false => exact absurd h List.not_mem_nil

/-- Units are written in digits and a point. -/
theorem mem_unitsText {places units : Nat} (h : c ∈ (unitsText places units).toList) :
    c.isDigit = true ∨ c = '.' := by
  unfold unitsText at h
  split at h
  · exact .inl (isDigit_of_mem_digits h)
  · simp only [String.toList_append, List.mem_append] at h
    rcases h with ((h | h) | h) | h
    · exact .inl (isDigit_of_mem_digits h)
    · exact .inr (List.mem_singleton.1 h)
    · exact .inl (Json.Token.isDigit_of_mem_zeros c h)
    · exact .inl (isDigit_of_mem_digits h)

/-- No number with a fixed number of decimal places is written with a brace. -/
theorem brace_not_mem_fixedText {α : Type} [Arithmetic α] (places : Nat) (x : α) :
    '\x7b' ∉ (fixedText places x).toList := by
  have hsign (negative : Bool) : '\x7b' ∉ (sign negative).toList := fun h =>
    absurd (eq_of_mem_sign h) (by decide)
  unfold fixedText
  split
  · decide
  · rw [String.toList_append, List.mem_append]
    exact not_or.2 ⟨hsign _, by decide⟩
  · rw [String.toList_append, List.mem_append]
    refine not_or.2 ⟨hsign _, fun h => ?_⟩
    rcases mem_unitsText h with hdigit | hpoint
    · exact absurd hdigit (by decide)
    · exact absurd hpoint (by decide)

end Decimal

/-! ## Replacing text -/

namespace Text

/-- The text with a replacement wherever a pattern stands, from the front. -/
def replaceAll (pattern replacement : List Char) : List Char → List Char
  | [] => []
  | c :: cs =>
    if pattern <+: c :: cs then
      replacement ++ replaceAll pattern replacement (cs.drop (pattern.length - 1))
    else c :: replaceAll pattern replacement cs
termination_by text => text.length
decreasing_by
  · rw [List.length_drop, List.length_cons]
    exact Nat.lt_succ_of_le (Nat.sub_le ..)
  · exact Nat.lt_succ_self _

variable {c : Char} {pattern replacement before : List Char}

/-- Text without the first character of a pattern stays. -/
theorem replaceAll_append (h : c ∉ before) (rest : List Char) :
    replaceAll (c :: pattern) replacement (before ++ rest) =
      before ++ replaceAll (c :: pattern) replacement rest := by
  induction before with
  | nil => rfl
  | cons d before ih =>
    rw [List.mem_cons, not_or] at h
    have hprefix : ¬ c :: pattern <+: d :: (before ++ rest) := fun hprefix =>
      h.1 (List.cons_prefix_cons.1 hprefix).1
    rw [List.cons_append, replaceAll, if_neg hprefix, ih h.2]
    rfl

/-- A pattern is replaced where it stands. -/
theorem replaceAll_pattern (rest : List Char) :
    replaceAll (c :: pattern) replacement (c :: pattern ++ rest) =
      replacement ++ replaceAll (c :: pattern) replacement rest := by
  have hprefix : c :: pattern <+: c :: (pattern ++ rest) := List.prefix_append (c :: pattern) rest
  have hrest : (pattern ++ rest).drop ((c :: pattern).length - 1) = rest := List.drop_left
  rw [List.cons_append, replaceAll, if_pos hprefix, hrest]

/-- Another pattern that begins with the same character stays, if neither begins the other. -/
theorem replaceAll_other {other : List Char} (h : c ∉ other) (hne : ¬ pattern <+: other)
    (hne' : ¬ other <+: pattern) (rest : List Char) :
    replaceAll (c :: pattern) replacement (c :: other ++ rest) =
      c :: other ++ replaceAll (c :: pattern) replacement rest := by
  have hprefix : ¬ c :: pattern <+: c :: (other ++ rest) := by
    intro hprefix
    have hpattern := (List.cons_prefix_cons.1 hprefix).2
    exact (List.prefix_or_prefix_of_prefix hpattern (List.prefix_append other rest)).elim hne hne'
  rw [List.cons_append, replaceAll, if_neg hprefix, replaceAll_append h]
  rfl

end Text

/-! ## Templates as text -/

variable {α : Type} [Arithmetic α]

/-- What stands for a piece in the text of a template until it is filled in. -/
inductive Placeholder where
  | percent
  | precisePercent
  | label
  deriving DecidableEq

namespace Placeholder

/-- All placeholders. -/
def all : List Placeholder :=
  [.percent, .precisePercent, .label]

/-- What is between the braces of a placeholder, with the closing one. -/
def name : Placeholder → List Char
  | .percent => "pct\x7d".toList
  | .precisePercent => "pct1\x7d".toList
  | .label => "label\x7d".toList

/-- How a placeholder is written. -/
def text (placeholder : Placeholder) : List Char :=
  '\x7b' :: placeholder.name

/-- What a placeholder stands for in a rule, about a ledger dimension or none. -/
def value (dimension? : Option LedgerDimension) (utilization : α) : Placeholder → List Char
  | .percent => (percentText 0 utilization).toList
  | .precisePercent => (percentText 1 utilization).toList
  | .label => (dimension?.map fun dimension => dimension.label.toList).getD []

/-- No placeholder has a brace inside, and none begins another one. -/
theorem name_apart : ∀ p ∈ all, '\x7b' ∉ p.name ∧ ∀ q ∈ all, q ≠ p → ¬ p.name <+: q.name := by
  decide

/-- The list of all placeholders leaves none out. -/
theorem mem_all (p : Placeholder) : p ∈ all := by
  cases p <;> decide

end Placeholder

namespace HintPiece

/-- What stands for a piece in the text of a template. -/
def placeholder? : HintPiece → Option Placeholder
  | .text _ => none
  | .percent places => some (if places = 0 then .percent else .precisePercent)
  | .label _ => some .label

/-- A piece in the text of a template in which some of the placeholders are filled in. -/
def filledUpTo (done : List Placeholder) (utilization : α) (piece : HintPiece) : List Char :=
  match piece.placeholder? with
  | none => (piece.render utilization).toList
  | some p => if p ∈ done then (piece.render utilization).toList else p.text

variable {done : List Placeholder} {utilization : α} {p : Placeholder} {replacement : List Char}

/-- A piece with a placeholder is filled in or not. -/
theorem filledUpTo_of_some {piece : HintPiece} (h : piece.placeholder? = some p) :
    piece.filledUpTo done utilization =
      if p ∈ done then (piece.render utilization).toList else p.text := by
  unfold filledUpTo
  rw [h]

/-- A piece is filled in when its placeholder is. -/
theorem filledUpTo_eq_render {piece : HintPiece} (h : ∀ p, piece.placeholder? = some p → p ∈ done) :
    piece.filledUpTo done utilization = (piece.render utilization).toList := by
  cases hp : piece.placeholder? with
  | none =>
    unfold filledUpTo
    rw [hp]
  | some p => rw [filledUpTo_of_some hp, if_pos (h p hp)]

/-- Replacing a placeholder in front of a text fills in the piece there if it is its own, and goes
on behind it. -/
theorem replaceAll_filledUpTo_append {piece : HintPiece}
    (hbrace : '\x7b' ∉ (piece.render utilization).toList) (hnew : p ∉ done)
    (hsame : piece.placeholder? = some p → (piece.render utilization).toList = replacement)
    (rest : List Char) :
    Text.replaceAll p.text replacement (piece.filledUpTo done utilization ++ rest) =
      piece.filledUpTo (p :: done) utilization ++ Text.replaceAll p.text replacement rest := by
  cases hq : piece.placeholder? with
  | none =>
    unfold filledUpTo
    rw [hq]
    exact Text.replaceAll_append hbrace rest
  | some q =>
    rw [filledUpTo_of_some hq, filledUpTo_of_some hq]
    by_cases hqp : q = p
    · subst hqp
      rw [if_neg hnew, if_pos (List.mem_cons_self ..), hsame hq]
      exact Text.replaceAll_pattern rest
    · have hdone : q ∈ p :: done ↔ q ∈ done := List.mem_cons.trans (or_iff_right hqp)
      by_cases hmem : q ∈ done
      · rw [if_pos hmem, if_pos (hdone.2 hmem)]
        exact Text.replaceAll_append hbrace rest
      · rw [if_neg hmem, if_neg fun h => hmem (hdone.1 h)]
        obtain ⟨-, hp⟩ := Placeholder.name_apart p p.mem_all
        obtain ⟨hinside, hq⟩ := Placeholder.name_apart q q.mem_all
        exact Text.replaceAll_other hinside (hp q q.mem_all hqp) (hq p p.mem_all (Ne.symm hqp)) rest

/-- Filling in one more placeholder is replacing it in the text, if it stands for the same in all
pieces. -/
theorem replaceAll_filledUpTo {pieces : List HintPiece}
    (hbrace : ∀ piece ∈ pieces, '\x7b' ∉ (piece.render utilization).toList) (hnew : p ∉ done)
    (hsame : ∀ piece ∈ pieces, piece.placeholder? = some p →
      (piece.render utilization).toList = replacement) :
    Text.replaceAll p.text replacement (pieces.flatMap (filledUpTo done utilization)) =
      pieces.flatMap (filledUpTo (p :: done) utilization) := by
  induction pieces with
  | nil => rw [List.flatMap_nil, List.flatMap_nil, Text.replaceAll]
  | cons piece pieces ih =>
    rw [List.forall_mem_cons] at hbrace hsame
    rw [List.flatMap_cons, List.flatMap_cons, replaceAll_filledUpTo_append hbrace.1 hnew hsame.1,
      ih hbrace.2 hsame.2]

/-- How a piece is written in the text of a template. -/
def written : HintPiece → List Char
  | .text s => s.toList
  | .percent places => (if places = 0 then Placeholder.percent else .precisePercent).text
  | .label _ => Placeholder.label.text

/-- Before anything is filled in, pieces stand as they are written. -/
theorem filledUpTo_nil (piece : HintPiece) : piece.filledUpTo [] utilization = piece.written := by
  cases piece <;> rfl

/-- A piece is one that a text with placeholders can say: a text has no brace, there are two ways to
write a percentage, and a label is that of the ledger dimension that the rule is about. -/
def Fits (dimension? : Option LedgerDimension) : HintPiece → Prop
  | .text s => '\x7b' ∉ s.toList
  | .percent places => places ≤ 1
  | .label dimension => dimension? = some dimension

instance (dimension? : Option LedgerDimension) : DecidablePred (Fits dimension?)
  | .text s => inferInstanceAs (Decidable ('\x7b' ∉ s.toList))
  | .percent places => inferInstanceAs (Decidable (places ≤ 1))
  | .label dimension => inferInstanceAs (Decidable (dimension? = some dimension))

section
variable {dimension? : Option LedgerDimension} {piece : HintPiece}

/-- What a piece can be that fits. -/
theorem Fits.cases (h : piece.Fits dimension?) :
    (∃ s, piece = .text s ∧ '\x7b' ∉ s.toList) ∨ piece = .percent 0 ∨ piece = .percent 1 ∨
      ∃ dimension, piece = .label dimension ∧ dimension? = some dimension := by
  cases piece with
  | text s => exact .inl ⟨s, rfl, h⟩
  | percent places =>
    have hplaces : places ≤ 1 := h
    obtain rfl | rfl : places = 0 ∨ places = 1 := by omega
    · exact .inr (.inl rfl)
    · exact .inr (.inr (.inl rfl))
  | label dimension => exact .inr (.inr (.inr ⟨dimension, rfl, h⟩))

/-- What is filled in has no brace. -/
theorem brace_not_mem_render (h : piece.Fits dimension?) :
    '\x7b' ∉ (piece.render utilization).toList := by
  have hpercent (places : Nat) : '\x7b' ∉ (percentText places utilization).toList := by
    unfold percentText
    rw [String.toList_append, List.mem_append]
    exact not_or.2 ⟨Decimal.brace_not_mem_fixedText places _, by decide⟩
  rcases h.cases with ⟨s, rfl, hs⟩ | rfl | rfl | ⟨dimension, rfl, -⟩
  · exact hs
  · exact hpercent 0
  · exact hpercent 1
  · show '\x7b' ∉ dimension.label.toList
    cases dimension <;> decide

/-- A piece is filled in with what its placeholder stands for. -/
theorem render_of_placeholder? (h : piece.Fits dimension?) (hp : piece.placeholder? = some p) :
    (piece.render utilization).toList = p.value dimension? utilization := by
  rcases h.cases with ⟨s, rfl, -⟩ | rfl | rfl | ⟨dimension, rfl, rfl⟩
  · cases hp
  · cases (Option.some.inj hp : Placeholder.percent = p)
    rfl
  · cases (Option.some.inj hp : Placeholder.precisePercent = p)
    rfl
  · cases (Option.some.inj hp : Placeholder.label = p)
    rfl

/-- Only a rule about a ledger dimension has a label to fill in. -/
theorem isSome_of_label (h : piece.Fits dimension?) (hp : piece.placeholder? = some .label) :
    dimension?.isSome = true := by
  rcases h.cases with ⟨s, rfl, -⟩ | rfl | rfl | ⟨dimension, rfl, rfl⟩
  · cases hp
  · cases hp
  · cases hp
  · rfl

end

end HintPiece

namespace HintRule

open HintPiece

/-- The ledger dimension that a rule is about. -/
def dimension? (rule : HintRule α) : Option LedgerDimension :=
  match rule.condition with
  | .ledgerAbove dimension _ => some dimension
  | _ => none

/-- The text of the template with its placeholders filled in: first the whole percentages, then
those with a decimal place, and the label if the rule is about a ledger dimension. -/
def filled (rule : HintRule α) (utilization : α) : List Char :=
  let whole := Text.replaceAll Placeholder.percent.text (percentText 0 utilization).toList
    (rule.template.flatMap written)
  let precise := Text.replaceAll Placeholder.precisePercent.text
    (percentText 1 utilization).toList whole
  match rule.dimension? with
  | some dimension => Text.replaceAll Placeholder.label.text dimension.label.toList precise
  | none => precise

/-- What a rule says, apart from the limits in its condition. -/
structure Outline where
  kind : HintKind
  severity : Severity
  dimension? : Option LedgerDimension
  template : List HintPiece

/-- The outline of a rule. -/
def outline (rule : HintRule α) : Outline :=
  ⟨rule.kind, rule.severity, rule.dimension?, rule.template⟩

/-- The table says the same for all kinds of numbers. -/
theorem table_map_outline :
    (table : List (HintRule α)).map outline = (table : List (HintRule Float)).map outline :=
  rfl

/-- What holds of all that the table says holds of each of its rules. -/
theorem of_mem_table {p : Outline → Prop}
    (hp : ∀ entry ∈ (table : List (HintRule Float)).map outline, p entry) {rule : HintRule α}
    (h : rule ∈ table) : p rule.outline := by
  refine hp _ ?_
  rw [← table_map_outline (α := α)]
  exact List.mem_map_of_mem h

/-- All pieces of the table fit their rules. -/
theorem fits_of_mem_table {rule : HintRule α} (h : rule ∈ table) :
    ∀ piece ∈ rule.template, piece.Fits rule.dimension? :=
  have htable : ∀ entry ∈ (table : List (HintRule Float)).map outline,
      ∀ piece ∈ entry.template, piece.Fits entry.dimension? := by decide +kernel
  of_mem_table htable h

/-- A message is made of its pieces. -/
theorem toList_message (rule : HintRule α) (utilization : α) :
    (rule.hint utilization).message.toList =
      rule.template.flatMap fun piece => (piece.render utilization).toList := by
  show (String.join _).toList = _
  rw [String.toList_join, List.flatMap_map]

/-- The message of a rule is the text of its template with the placeholders filled in. -/
theorem message_eq_filled {rule : HintRule α} (h : rule ∈ table) (utilization : α) :
    (rule.hint utilization).message.toList = rule.filled utilization := by
  have hfits := fits_of_mem_table h
  have hbrace : ∀ piece ∈ rule.template, '\x7b' ∉ (piece.render utilization).toList :=
    fun piece hpiece => brace_not_mem_render (hfits piece hpiece)
  have hwritten : written = filledUpTo [] utilization := (funext filledUpTo_nil).symm
  have hstep (p : Placeholder) (done : List Placeholder) (hnew : p ∉ done) :
      Text.replaceAll p.text (p.value rule.dimension? utilization)
        (rule.template.flatMap (filledUpTo done utilization)) =
      rule.template.flatMap (filledUpTo (p :: done) utilization) :=
    replaceAll_filledUpTo hbrace hnew fun piece hpiece hp =>
      render_of_placeholder? (hfits piece hpiece) hp
  have hfilled (done : List Placeholder)
      (hdone : ∀ piece ∈ rule.template, ∀ p, piece.placeholder? = some p → p ∈ done) :
      (rule.hint utilization).message.toList =
        rule.template.flatMap (filledUpTo done utilization) := by
    rw [toList_message]
    exact List.flatMap_congr fun piece hpiece => (filledUpTo_eq_render (hdone piece hpiece)).symm
  have hprecise := hstep .precisePercent [.percent] (by decide)
  have hlabel := hstep .label [.precisePercent, .percent] (by decide)
  rw [← hstep .percent [] List.not_mem_nil, ← hwritten] at hprecise
  unfold filled
  cases hd : rule.dimension? with
  | some dimension =>
    rw [hfilled [.label, .precisePercent, .percent] fun _ _ p _ => by cases p <;> decide,
      ← hlabel, ← hprecise, hd]
    rfl
  | none =>
    have hnone : ∀ piece ∈ rule.template, ∀ p, piece.placeholder? = some p →
        p ∈ [Placeholder.precisePercent, .percent] := by
      intro piece hpiece p hp
      cases p with
      | percent | precisePercent => decide
      | label =>
        have hsome := isSome_of_label (hfits piece hpiece) hp
        rw [hd] at hsome
        cases hsome
    rw [hfilled _ hnone, ← hprecise]
    rfl

/-- No placeholder is left in a message, whatever utilization it reports. -/
theorem not_infix_message {rule : HintRule α} (h : rule ∈ table) (utilization : α)
    (p : Placeholder) : ¬ p.text <:+: (rule.hint utilization).message.toList := by
  intro hinfix
  have hbrace : '\x7b' ∈ (rule.hint utilization).message.toList :=
    hinfix.subset (List.mem_cons_self ..)
  rw [toList_message, List.mem_flatMap] at hbrace
  obtain ⟨piece, hpiece, hmem⟩ := hbrace
  exact brace_not_mem_render (fits_of_mem_table h piece hpiece) hmem

end HintRule

end ResourceMeter
