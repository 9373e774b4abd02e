import Mathlib.Logic.Relation
import ResourceMeter.Proofs.Json.RoundTrip
import ResourceMeter.Proofs.Json.Strict

/-!
# Objects in other words

A `Wording` says of a part of a text which changes leave it alone and which flaws make it
unreadable. For a record both follow from its description (`Record.wording`). An object may have its
members in another order, further members with the names of no field, and its optional fields with
their blank value or not at all. A field that is there twice and a required one that is missing are
flaws. Changes and flaws may also lie within the value of a field.

From an object of a lawful record the same is read after every change, and nothing if there is a
flaw (`Record.Lawful.obeys`). The former holds for any number of changes in both directions
(`Codec.Obeys.eqvGen`).
-/

namespace ResourceMeter.Json

variable {σ α β : Type}

/-- How a part of a text may be put. -/
structure Wording where
  /-- A change that leaves the part alone. -/
  Change : Outline → Outline → Prop
  /-- A flaw that keeps the part from being read. -/
  Flaw : Outline → Prop

/-! ## Codecs and fields -/

/-- After a change the codec reads the same value, if it reads any, and where there is a flaw it
reads none. -/
structure Codec.Obeys (codec : Codec α) (wording : Wording) : Prop where
  change : ∀ {outline outline'}, wording.Change outline outline' →
    ∀ value, codec.decode outline = .ok value ↔ codec.decode outline' = .ok value
  flaw : ∀ {outline}, wording.Flaw outline → ∀ value, codec.decode outline ≠ .ok value

namespace Codec.Obeys

variable {wording : Wording}

/-- After several changes in both directions the codec reads the same value, if it reads any. -/
theorem eqvGen {codec : Codec α} (h : codec.Obeys wording) {outline outline' : Outline}
    (hchanges : Relation.EqvGen wording.Change outline outline') (value : α) :
    codec.decode outline = .ok value ↔ codec.decode outline' = .ok value := by
  induction hchanges with
  | rel _ _ hchange => exact h.change hchange value
  | refl _ => exact Iff.rfl
  | symm _ _ _ ih => exact ih.symm
  | trans _ _ _ _ _ ih ih' => exact ih.trans ih'

/-- A check does not look at how its value is put. -/
theorem checked {codec : Codec β} (h : codec.Obeys wording) {check : β → Except String α}
    {uncheck : α → β} : (Codec.checked codec check uncheck).Obeys wording where
  change hchange value := by
    rw [checked_decode_eq_ok_iff, checked_decode_eq_ok_iff]
    exact exists_congr fun draft => and_congr_left' (h.change hchange draft)
  flaw hflaw value hvalue := by
    obtain ⟨draft, hdraft, -⟩ := checked_decode_eq_ok_iff.1 hvalue
    exact h.flaw hflaw draft hdraft

/-- From a text that is put in other words the same value is read, if any is. -/
theorem read_eq_ok_iff {codec : Codec α} (h : codec.Obeys wording) {text text' : String}
    {outline outline' : Outline} (htext : outline.WrittenAs text)
    (htext' : outline'.WrittenAs text')
    (hchanges : Relation.EqvGen wording.Change outline outline') (value : α) :
    codec.read text = .ok value ↔ codec.read text' = .ok value := by
  rw [htext.read, htext'.read]
  exact h.eqvGen hchanges value

/-- From a text with a flaw nothing is read. -/
theorem exists_error {codec : Codec α} (h : codec.Obeys wording) {text : String} {outline : Outline}
    (htext : outline.WrittenAs text) (hflaw : wording.Flaw outline) :
    ∃ cause, codec.read text = .error cause :=
  htext.exists_error (h.flaw hflaw)

end Codec.Obeys

/-- After a change the field reads the same update, if it reads any, and where there is a flaw it
reads none. -/
structure Field.Obeys (field : Field σ) (wording : Wording) : Prop where
  change : ∀ {outline outline'}, wording.Change outline outline' →
    ∀ update, field.decode outline = .ok update ↔ field.decode outline' = .ok update
  flaw : ∀ {outline}, wording.Flaw outline → ∀ update, field.decode outline ≠ .ok update

/-- A field obeys what its codec does. -/
theorem Field.Sets.obeys {field : Field σ} {codec : Codec α} {set : α → σ → σ}
    (h : field.Sets codec set) {wording : Wording} (hcodec : codec.Obeys wording) :
    field.Obeys wording where
  change hchange update := by
    rw [h.eq_ok_iff, h.eq_ok_iff]
    exact exists_congr fun x => and_congr_left' (hcodec.change hchange x)
  flaw hflaw update hupdate := by
    obtain ⟨x, hx, -⟩ := h.eq_ok_iff.1 hupdate
    exact hcodec.flaw hflaw x hx

namespace Record

/-! ## The wording of a record -/

/-- A change of an object that is of no account for the record. -/
inductive Change (record : Record σ) (parts : List (String × Wording)) : Outline → Outline → Prop
  /-- The members have another order. -/
  | order {members members' : List (Token × Outline)} : members.Perm members' →
      Change record parts (.object members) (.object members')
  /-- There is one more member, with the name of no field. -/
  | extra {name : String} {part : Outline} {members : List (Token × Outline)} :
      record.field? name = none → part.IsValue →
      Change record parts (.object members) (.object ((.string name, part) :: members))
  /-- An optional field that was left out is written with its blank value. -/
  | blank {name : String} {part : Outline} {members : List (Token × Outline)} {field : Field σ}
      {update : σ → σ} : record.field? name = some field → field.required = false →
      (∀ part, (.string name, part) ∉ members) → field.decode part = .ok update →
      update record.blank = record.blank →
      Change record parts (.object members) (.object ((.string name, part) :: members))
  /-- The value of a field is changed. -/
  | part {name : String} {part part' : Outline} {members : List (Token × Outline)}
      {wording : Wording} : (name, wording) ∈ parts → wording.Change part part' →
      Change record parts (.object ((.string name, part) :: members))
        (.object ((.string name, part') :: members))

/-- Something that keeps the outline from being read as a record. -/
inductive Flaw (record : Record σ) (parts : List (String × Wording)) : Outline → Prop
  /-- A field is there twice. -/
  | repeated {name : String} {part part' : Outline} {members : List (Token × Outline)}
      {field : Field σ} : record.field? name = some field →
      [(.string name, part), (.string name, part')].Sublist members →
      Flaw record parts (.object members)
  /-- Nothing is given for a required field. -/
  | missing {name : String} {outline : Outline} {field : Field σ} :
      record.field? name = some field → field.required = true →
      (∀ part, ¬ record.Gives name outline part) → Flaw record parts outline
  /-- The value of a field has a flaw. -/
  | part {name : String} {outline part : Outline} {wording : Wording} : (name, wording) ∈ parts →
      record.Gives name outline part → wording.Flaw part → Flaw record parts outline

/-- How a record may be put, where the fields in `parts` may be put as it says next to their
name. -/
def wording (record : Record σ) (parts : List (String × Wording)) : Wording :=
  ⟨record.Change parts, record.Flaw parts⟩

/-- What is written for an optional field of the blank record is read as its blank value. -/
def WritesBlank (record : Record σ) : Prop :=
  ∀ field ∈ record.fields, field.required = false →
    ∃ update, field.ReadsBack record.blank update ∧ update record.blank = record.blank

/-- A member is absent if its name is. -/
theorem absent_of_names {token : Token} {members : List (Token × Outline)}
    (h : token ∉ members.map Prod.fst) (part : Outline) : (token, part) ∉ members :=
  fun hmem => h (List.mem_map_of_mem hmem)

/-! ## Records obey their wording -/

variable {record : Record σ} {parts : List (String × Wording)} {members : List (Token × Outline)}
  {name : String} {part : Outline} {value : σ}

/-- A member of no field is skipped. -/
theorem decode_extra (hnone : record.field? name = none) (hform : part.isWellFormed = true) :
    record.codec.decode (.object ((.string name, part) :: members)) =
      record.codec.decode (.object members) := by
  show record.decodeMembers _ _ _ = _
  rw [decodeMembers, hnone]
  dsimp only
  rw [if_pos hform]
  rfl

/-- A first member with the name of a field updates the record. -/
theorem decode_field_iff {field : Field σ} (hfield : record.field? name = some field) :
    record.codec.decode (.object ((.string name, part) :: members)) = .ok value ↔
      ∃ update, field.decode part = .ok update ∧
        record.decodeMembers members [name] (update record.blank) = .ok value := by
  show record.decodeMembers _ _ _ = _ ↔ _
  rw [decodeMembers, hfield]
  dsimp only
  rw [List.contains_nil, if_neg Bool.false_ne_true]
  cases field.decode part with
  | ok update =>
    refine ⟨fun h => ⟨update, rfl, h⟩, ?_⟩
    rintro ⟨_, hupdate, h⟩
    cases hupdate
    exact h
  | error fault =>
    constructor
    · intro h
      cases h
    · rintro ⟨update, hupdate, -⟩
      cases hupdate

/-- Where an optional field is left out, it makes no difference whether it was read before. -/
theorem decodeMembers_seen_iff {field : Field σ} (hnames : record.NamesDiffer)
    (hfield : record.field? name = some field) (hoptional : field.required = false)
    (habsent : ∀ part, (.string name, part) ∉ members) {before : σ} :
    record.decodeMembers members [name] before = .ok value ↔
      record.decodeMembers members [] before = .ok value := by
  have hother {other : Field σ} (hmem : other ∈ record.fields) (hrequired : other.required = true) :
      other.name ≠ name := by
    rintro rfl
    obtain ⟨before, after, hfields⟩ := List.append_of_mem hmem
    have hfound := (field?_of_fields_eq hnames hfields).2
    cases hfound.symm.trans hfield
    exact Bool.false_ne_true (hoptional.symm.trans hrequired)
  rw [decodeMembers_eq_ok_iff, decodeMembers_eq_ok_iff]
  refine exists_congr fun updates => and_congr_left' ⟨fun h => ?_, fun h => ?_⟩
  · refine ⟨h.effects, h.once, nofun, fun other hmem hrequired => .inr ?_⟩
    refine (h.complete other hmem hrequired).resolve_left fun hseen => ?_
    exact hother hmem hrequired (List.mem_singleton.1 hseen)
  · refine ⟨h.effects, h.once, fun n hn part hpart => ?_, fun other hmem hrequired => .inr ?_⟩
    · obtain rfl := List.mem_singleton.1 hn
      exact absurd hpart (habsent part)
    · exact (h.complete other hmem hrequired).resolve_left List.not_mem_nil

/-- After a change a lawful record is read as before. -/
theorem Lawful.decode_change (hlawful : record.Lawful) (hnames : record.NamesDiffer)
    (hparts : ∀ part ∈ parts, ∃ field, record.field? part.1 = some field ∧ field.Obeys part.2)
    {outline outline' : Outline} (hchange : record.Change parts outline outline') :
    record.codec.decode outline = .ok value ↔ record.codec.decode outline' = .ok value := by
  cases hchange with
  | order hperm => exact ⟨hlawful.decode_perm hperm, hlawful.decode_perm hperm.symm⟩
  | extra hnone hvalue => rw [decode_extra hnone hvalue.isWellFormed]
  | @blank name part members field update hfield hoptional habsent hupdate hblank =>
    rw [decode_field_iff hfield]
    constructor
    · intro h
      refine ⟨update, hupdate, ?_⟩
      rw [hblank]
      exact (decodeMembers_seen_iff hnames hfield hoptional habsent).2 h
    · rintro ⟨update', hupdate', h⟩
      cases hupdate.symm.trans hupdate'
      rw [hblank] at h
      exact (decodeMembers_seen_iff hnames hfield hoptional habsent).1 h
  | part hmem hpart =>
    obtain ⟨field, hfield, hobeys⟩ := hparts _ hmem
    rw [decode_field_iff hfield, decode_field_iff hfield]
    exact exists_congr fun update => and_congr_left' (hobeys.change hpart update)

/-- From an outline with a flaw a lawful record is not read. -/
theorem Lawful.decode_flaw (hlawful : record.Lawful)
    (hparts : ∀ part ∈ parts, ∃ field, record.field? part.1 = some field ∧ field.Obeys part.2)
    {outline : Outline} (hflaw : record.Flaw parts outline) :
    record.codec.decode outline ≠ .ok value := by
  intro hvalue
  cases hflaw with
  | repeated hfield hsublist =>
    obtain ⟨updates, hmakeUp, -⟩ := decode_object_eq_ok_iff.1 hvalue
    have hclash := List.pairwise_pair.1 (hmakeUp.once.sublist hsublist)
    exact hclash ⟨_, _, hfield, rfl, rfl⟩
  | missing hfield hrequired habsent =>
    obtain ⟨part, hgives⟩ := exists_gives hfield hrequired hvalue
    exact habsent part hgives
  | part hmem hgives hpart =>
    obtain ⟨field, hfield, hobeys⟩ := hparts _ hmem
    obtain ⟨update, -, hupdate, -⟩ := hgives.decode hfield hlawful hvalue
    exact hobeys.flaw hpart update hupdate

/-- A lawful record obeys its wording if the fields that have a wording of their own do. -/
theorem Lawful.obeys (hlawful : record.Lawful) (hnames : record.NamesDiffer)
    (hparts : ∀ part ∈ parts, ∃ field, record.field? part.1 = some field ∧ field.Obeys part.2) :
    record.codec.Obeys (record.wording parts) where
  change hchange _ := hlawful.decode_change hnames hparts hchange
  flaw hflaw _ := hlawful.decode_flaw hparts hflaw

end Record

end ResourceMeter.Json
