import Mathlib.Data.List.Forall2
import ResourceMeter.Json.Record

/-!
# Codecs that read less

`Codec.Refines codec draft forget` says that whatever `codec` accepts, `draft` reads as well, as
what `forget` leaves of it. A check makes a codec accept less and leaves what it reads as it is
(`Codec.refines_checked`); records refine each other field by field, in object form and in list form
(`Record.Refines.codec`). A text that is read under checks therefore says what a reader without
them finds in it.
-/

namespace ResourceMeter.Json

variable {α β σ τ : Type}

/-- Whatever the codec accepts, the draft reads as well. -/
def Codec.Refines (codec : Codec α) (draft : Codec β) (forget : α → β) : Prop :=
  ∀ outline value, codec.decode outline = .ok value → draft.decode outline = .ok (forget value)

/-- A codec refines itself. -/
theorem Codec.refines_self (codec : Codec α) : codec.Refines codec id :=
  fun _ _ h => h

/-- A check that leaves its value as it is makes a codec accept less. -/
theorem Codec.refines_checked {codec : Codec β} {check : β → Except String α} {uncheck : α → β}
    (h : ∀ {value result}, check value = .ok result → uncheck result = value) :
    (checked codec check uncheck).Refines codec uncheck := by
  intro outline result hresult
  unfold checked at hresult
  dsimp only at hresult
  cases hvalue : codec.decode outline with
  | error fault =>
    rw [hvalue] at hresult
    cases hresult
  | ok value =>
    rw [hvalue] at hresult
    dsimp only at hresult
    cases hcheck : check value with
    | error reason =>
      rw [hcheck] at hresult
      cases hresult
    | ok checkedValue =>
      rw [hcheck] at hresult
      cases hresult
      rw [h hcheck]

/-- From a text as well, the draft reads whatever the codec accepts. -/
theorem Codec.Refines.read {codec : Codec α} {draft : Codec β} {forget : α → β}
    (h : codec.Refines draft forget) {text : String} {value : α}
    (hread : codec.read text = .ok value) : draft.read text = .ok (forget value) := by
  unfold Codec.read at hread ⊢
  dsimp only at hread ⊢
  cases hvalue : codec.decode (Document.ofText text).root with
  | error fault =>
    rw [hvalue] at hread
    cases hread
  | ok found =>
    rw [hvalue] at hread
    rw [h _ _ hvalue]
    dsimp only at hread ⊢
    by_cases htrailing : (Document.ofText text).trailing = true
    · rw [if_pos htrailing] at hread
      cases hread
    · rw [if_neg htrailing] at hread ⊢
      cases hread
      rfl

/-! ## Fields -/

/-- Both fields have the same name, and whatever the first one accepts, the second one reads to the
same effect. -/
structure Field.Refines (forget : σ → τ) (field : Field σ) (draft : Field τ) : Prop where
  name : field.name = draft.name
  required : field.required = draft.required
  decode : ∀ outline update, field.decode outline = .ok update → ∃ update',
    draft.decode outline = .ok update' ∧ ∀ record, forget (update record) = update' (forget record)

/-- Required fields refine each other as their codecs do. -/
theorem Field.refines_of {forget : σ → τ} {name : String} {codec : Codec α} {draft : Codec β}
    {forgetValue : α → β} {get : σ → α} {get' : τ → β} {set : α → σ → σ} {set' : β → τ → τ}
    (h : codec.Refines draft forgetValue)
    (hset : ∀ value record, forget (set value record) = set' (forgetValue value) (forget record)) :
    Field.Refines forget (.of name codec get set) (.of name draft get' set') := by
  refine ⟨rfl, rfl, fun outline update hupdate => ?_⟩
  unfold Field.of at hupdate ⊢
  dsimp only at hupdate ⊢
  cases hvalue : codec.decode outline with
  | error fault =>
    rw [hvalue] at hupdate
    cases hupdate
  | ok value =>
    rw [hvalue] at hupdate
    cases hupdate
    rw [h _ _ hvalue]
    exact ⟨_, rfl, hset value⟩

/-- Optional fields refine each other as their codecs do. -/
theorem Field.refines_optional {forget : σ → τ} {name : String} {codec : Codec α}
    {draft : Codec β} {forgetValue : α → β} {get : σ → α} {get' : τ → β} {set : α → σ → σ}
    {set' : β → τ → τ} (h : codec.Refines draft forgetValue)
    (hset : ∀ value record, forget (set value record) = set' (forgetValue value) (forget record)) :
    Field.Refines forget (.optional name codec get set) (.optional name draft get' set') := by
  have hfield : Field.Refines forget (.of name codec get set) (.of name draft get' set') :=
    Field.refines_of h hset
  exact ⟨rfl, rfl, hfield.decode⟩

/-! ## Records -/

/-- Related lists are searched alike. -/
theorem rel_find? {R : α → β → Prop} {p : α → Bool} {p' : β → Bool}
    (hp : ∀ a b, R a b → p a = p' b) {l : List α} {l' : List β} (h : List.Forall₂ R l l') :
    Option.Rel R (l.find? p) (l'.find? p') := by
  induction h with
  | nil => exact .none
  | @cons a b l l' hab _ ih =>
    rw [List.find?_cons, List.find?_cons, ← hp a b hab]
    cases p a with
    | true => exact .some hab
    | false => exact ih

namespace Record

/-- Field by field, the first record refines the second one. -/
structure Refines (forget : σ → τ) (record : Record σ) (draft : Record τ) : Prop where
  blank : forget record.blank = draft.blank
  fields : List.Forall₂ (Field.Refines forget) record.fields draft.fields

variable {forget : σ → τ} {record : Record σ} {draft : Record τ}

/-- A name finds fields that refine each other, or none. -/
theorem Refines.field? (h : Refines forget record draft) (name : String) :
    Option.Rel (Field.Refines forget) (record.field? name) (draft.field? name) :=
  rel_find? (fun _ _ hfield => by rw [hfield.name]) h.fields

/-- The draft misses the same fields. -/
theorem Refines.missing (h : Refines forget record draft) (seen : List String) :
    Option.Rel (Field.Refines forget)
      (record.fields.find? fun field => field.required && !seen.contains field.name)
      (draft.fields.find? fun field => field.required && !seen.contains field.name) :=
  rel_find? (fun _ _ hfield => by rw [hfield.name, hfield.required]) h.fields

/-- Members that are accepted are read by the draft as well. -/
theorem Refines.decodeMembers (h : Refines forget record draft) :
    ∀ (members : List (Token × Outline)) (seen : List String) (value result : σ),
      record.decodeMembers members seen value = .ok result →
      draft.decodeMembers members seen (forget value) = .ok (forget result) := by
  intro members
  induction members with
  | nil =>
    intro seen value result hresult
    have hmissing := h.missing seen
    unfold Record.decodeMembers at hresult ⊢
    generalize record.fields.find? (fun field => field.required && !seen.contains field.name) =
      found at hmissing hresult
    generalize draft.fields.find? (fun field => field.required && !seen.contains field.name) =
      found' at hmissing ⊢
    cases hmissing with
    | some _ => cases hresult
    | none =>
      cases hresult
      rfl
  | cons member members ih =>
    intro seen value result hresult
    obtain ⟨name, outline⟩ := member
    cases name with
    | string name =>
      have hname := h.field? name
      unfold Record.decodeMembers at hresult ⊢
      generalize record.field? name = found at hname hresult
      generalize draft.field? name = found' at hname ⊢
      cases hname with
      | none =>
        -- A member that no field has is skipped by both.
        dsimp only at hresult ⊢
        by_cases hform : outline.isWellFormed = true
        · rw [if_pos hform] at hresult ⊢
          exact ih seen value result hresult
        · rw [if_neg hform] at hresult
          cases hresult
      | @some field field' hfield =>
        dsimp only at hresult ⊢
        by_cases hseen : seen.contains name = true
        · rw [if_pos hseen] at hresult
          cases hresult
        · rw [if_neg hseen] at hresult ⊢
          cases hupdate : field.decode outline with
          | error fault =>
            rw [hupdate] at hresult
            cases hresult
          | ok update =>
            obtain ⟨update', hupdate', heffect⟩ := hfield.decode _ _ hupdate
            rw [hupdate] at hresult
            rw [hupdate']
            dsimp only at hresult ⊢
            rw [← heffect]
            exact ih (name :: seen) (update value) result hresult
    | _ => cases hresult

/-- Items that are accepted are read by the draft as well. -/
theorem Refines.decodeItems {fields : List (Field σ)} {fields' : List (Field τ)}
    (h : List.Forall₂ (Field.Refines forget) fields fields') :
    ∀ (items : List Outline) (index : Nat) (value result : σ),
      record.decodeItems fields items index value = .ok result →
      draft.decodeItems fields' items index (forget value) = .ok (forget result) := by
  induction h with
  | nil =>
    intro items index value result hresult
    cases items with
    | nil =>
      cases hresult
      rfl
    | cons item items => cases hresult
  | @cons field field' fields fields' hfield _ ih =>
    intro items index value result hresult
    cases items with
    | nil =>
      unfold Record.decodeItems at hresult ⊢
      rw [← hfield.required]
      by_cases hrequired : field.required = true
      · rw [if_pos hrequired] at hresult
        cases hresult
      · rw [if_neg hrequired] at hresult ⊢
        exact ih [] (index + 1) value result hresult
    | cons item items =>
      unfold Record.decodeItems at hresult ⊢
      cases hupdate : field.decode item with
      | error fault =>
        rw [hupdate] at hresult
        cases hresult
      | ok update =>
        obtain ⟨update', hupdate', heffect⟩ := hfield.decode _ _ hupdate
        rw [hupdate] at hresult
        rw [hupdate']
        dsimp only at hresult ⊢
        rw [← heffect]
        exact ih items (index + 1) (update value) result hresult

/-- Records that are accepted are read by the draft as well, in whichever form they are written. -/
theorem Refines.codec (h : Refines forget record draft) :
    record.codec.Refines draft.codec forget := by
  intro outline value hvalue
  unfold Record.codec at hvalue ⊢
  dsimp only at hvalue ⊢
  cases outline with
  | leaf token => cases hvalue
  | list items =>
    rw [← h.blank]
    exact decodeItems h.fields items 0 record.blank value hvalue
  | object members =>
    rw [← h.blank]
    exact h.decodeMembers members [] record.blank value hvalue

end Record

end ResourceMeter.Json
