import ResourceMeter.Proofs.Json.Grammar
import ResourceMeter.Proofs.Json.Members

/-!
# Codecs that read only values

A reader stops at the first fault of a text. `Codec.Strict codec` says that the codec never accepts
an outline with a fault of form in it, so that nothing is accepted in front of one. The codecs of
plain types are strict, and those of lists, of checked values and of records are strict if their
parts are. A text is then read as a value if and only if it is written as an outline from which the
codec reads this value (`Codec.Strict.read_eq_ok_iff`).
-/

namespace ResourceMeter.Json

variable {σ α β : Type}

namespace Codec

/-- Whatever the codec reads is well formed. -/
def Strict (codec : Codec α) : Prop :=
  ∀ outline value, codec.decode outline = .ok value → outline.isWellFormed = true

/-- A codec of plain values is strict. -/
theorem strict_of_leaf {codec : Codec α} (hbad : ∀ value, codec.decode .bad ≠ .ok value)
    (hlist : ∀ items value, codec.decode (.list items) ≠ .ok value)
    (hobject : ∀ members value, codec.decode (.object members) ≠ .ok value) : codec.Strict := by
  intro outline value h
  cases outline with
  | leaf token =>
    rw [Outline.isWellFormed, bne_iff_ne]
    rintro rfl
    exact hbad value h
  | list items => exact absurd h (hlist items value)
  | object members => exact absurd h (hobject members value)

/-- Only numbers are read as integers. -/
@[simp]
theorem strict_uint64 : uint64.Strict :=
  strict_of_leaf nofun nofun nofun

/-- Only numbers are read as floats. -/
@[simp]
theorem strict_float : float.Strict :=
  strict_of_leaf nofun nofun nofun

/-- Only strings are read as strings. -/
@[simp]
theorem strict_string : string.Strict :=
  strict_of_leaf nofun nofun nofun

/-- All items of a list that is read are read. -/
theorem decode_of_mapM_eq_ok {codec : Codec α} {items : List Outline} {values : List α}
    (h : items.mapM codec.decode = .ok values) :
    ∀ item ∈ items, ∃ value, codec.decode item = .ok value := by
  induction items generalizing values with
  | nil => exact List.forall_mem_nil _
  | cons item items ih =>
    rw [List.mapM_cons] at h
    cases hitem : codec.decode item with
    | error fault =>
      rw [hitem] at h
      cases h
    | ok value =>
      rw [hitem] at h
      cases hitems : items.mapM codec.decode with
      | error fault =>
        rw [hitems] at h
        cases h
      | ok values => exact List.forall_mem_cons.2 ⟨⟨value, hitem⟩, ih hitems⟩

/-- A list is read as strictly as its items. -/
@[simp]
theorem Strict.list {codec : Codec α} (h : codec.Strict) : (list codec).Strict := by
  intro outline value hvalue
  cases outline with
  | leaf token => cases hvalue
  | list items =>
    rw [Outline.isWellFormed, Outline.areWellFormed_iff]
    intro item hitem
    obtain ⟨value, hvalue⟩ := decode_of_mapM_eq_ok hvalue item hitem
    exact h item value hvalue
  | object members => cases hvalue

/-- A checked value is read if its draft is and passes the check. -/
theorem checked_decode_eq_ok_iff {codec : Codec β} {check : β → Except String α} {uncheck : α → β}
    {outline : Outline} {value : α} : (checked codec check uncheck).decode outline = .ok value ↔
      ∃ draft, codec.decode outline = .ok draft ∧ check draft = .ok value := by
  unfold checked
  dsimp only
  cases codec.decode outline with
  | error fault => exact ⟨nofun, nofun⟩
  | ok draft =>
    dsimp only
    constructor
    · intro h
      refine ⟨draft, rfl, ?_⟩
      cases hcheck : check draft with
      | error reason =>
        rw [hcheck] at h
        cases h
      | ok result =>
        rw [hcheck] at h
        cases h
        rfl
    · rintro ⟨_, hdraft, hcheck⟩
      cases hdraft
      rw [hcheck]

/-- A check only refuses, so what passes it is read as strictly as its draft. -/
@[simp]
theorem Strict.checked {codec : Codec β} {check : β → Except String α} {uncheck : α → β}
    (h : codec.Strict) : (checked codec check uncheck).Strict := by
  intro outline value hvalue
  obtain ⟨draft, hdraft, -⟩ := checked_decode_eq_ok_iff.1 hvalue
  exact h outline draft hdraft

end Codec

/-! ## Records -/

/-- Whatever the field reads is well formed. -/
def Field.Strict (field : Field σ) : Prop :=
  ∀ outline update, field.decode outline = .ok update → outline.isWellFormed = true

/-- A field is as strict as its codec. -/
theorem Field.Sets.strict {field : Field σ} {codec : Codec α} {set : α → σ → σ}
    (h : field.Sets codec set) (hcodec : codec.Strict) : field.Strict := by
  intro outline update hupdate
  obtain ⟨x, hx, -⟩ := h.eq_ok_iff.1 hupdate
  exact hcodec outline x hx

/-- A required field is as strict as its codec. -/
@[simp]
theorem Field.strict_of {name : String} {codec : Codec α} {get : σ → α} {set : α → σ → σ}
    (h : codec.Strict) : (Field.of name codec get set).Strict :=
  Field.sets_of.strict h

/-- A field that may be missing is as strict as its codec. -/
@[simp]
theorem Field.strict_optional {name : String} {codec : Codec α} {get : σ → α} {set : α → σ → σ}
    (h : codec.Strict) : (Field.optional name codec get set).Strict :=
  Field.sets_optional.strict h

/-- A record is as strict as its fields. -/
theorem Record.strict {record : Record σ} (h : ∀ field ∈ record.fields, field.Strict) :
    record.codec.Strict := by
  intro outline value hvalue
  cases outline with
  | leaf token => cases hvalue
  | object members =>
    obtain ⟨updates, hmakeUp, -⟩ := Record.decode_object_eq_ok_iff.1 hvalue
    rw [Outline.isWellFormed, Outline.membersAreWellFormed_iff]
    intro member hmember
    obtain ⟨update, -, heffect⟩ := exists_right_of_mem hmakeUp.effects hmember
    cases heffect with
    | skip hnone hform => exact ⟨.string _, hform⟩
    | set hfield hupdate =>
      exact ⟨.string _, h _ (List.mem_of_find?_eq_some hfield) _ _ hupdate⟩
  | list items =>
    obtain ⟨⟨updates, hupdates, -⟩, hlength, -⟩ := Record.decodeItems_eq_ok hvalue
    rw [Outline.isWellFormed, Outline.areWellFormed_iff]
    intro item hitem
    obtain ⟨i, hi, rfl⟩ := List.mem_iff_getElem.1 hitem
    have hplace : (record.fields[i], items[i]) ∈ record.fields.zip items := by
      rw [← List.getElem_zip (h := by rw [List.length_zip]; omega)]
      exact List.getElem_mem _
    obtain ⟨update, -, hupdate⟩ := exists_right_of_mem hupdates hplace
    exact h _ (List.getElem_mem _) _ update hupdate

/-! ## Texts -/

namespace Outline.WrittenAs

/-- From a text that is written as an outline, a codec reads what it reads from the outline. -/
theorem read {outline : Outline} {text : String} (h : outline.WrittenAs text) (codec : Codec α) :
    codec.read text = codec.decode outline := by
  unfold Codec.read
  rw [(Outline.writtenAs_iff.1 h).1]
  dsimp only
  cases codec.decode outline <;> rfl

/-- What is not read from the outline is not read from the text. -/
theorem exists_error {outline : Outline} {text : String} (h : outline.WrittenAs text)
    {codec : Codec α} (hnone : ∀ value, codec.decode outline ≠ .ok value) :
    ∃ cause, codec.read text = .error cause := by
  rw [h.read]
  cases hvalue : codec.decode outline with
  | error cause => exact ⟨cause, rfl⟩
  | ok value => exact absurd hvalue (hnone value)

end Outline.WrittenAs

/-- A text is read as a value if and only if it is written as an outline that is. -/
theorem Codec.Strict.read_eq_ok_iff {codec : Codec α} (h : codec.Strict) {text : String}
    {value : α} : codec.read text = .ok value ↔
      ∃ outline : Outline, outline.WrittenAs text ∧ codec.decode outline = .ok value := by
  constructor
  · intro hread
    unfold Codec.read at hread
    dsimp only at hread
    cases hvalue : codec.decode (Document.ofText text).root with
    | error fault =>
      rw [hvalue] at hread
      cases hread
    | ok found =>
      rw [hvalue] at hread
      dsimp only at hread
      split at hread
      · cases hread
      · next htrailing =>
        cases hread
        refine ⟨_, Outline.writtenAs_iff.2 ⟨?_, h _ _ hvalue⟩, hvalue⟩
        rw [← Bool.eq_false_iff.2 htrailing]
  · rintro ⟨outline, htext, hvalue⟩
    rw [htext.read, hvalue]

end ResourceMeter.Json
