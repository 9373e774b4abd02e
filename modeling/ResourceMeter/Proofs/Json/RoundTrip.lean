import Mathlib.Data.List.Nodup
import ResourceMeter.Json.Record
import ResourceMeter.Proofs.Json.Reading

/-!
# Codecs read back what they write

`Codec.ReadsBack codec value` says that the codec reads the value back from what it wrote for it;
`ReadsBack.read_compact` and `ReadsBack.read_pretty` carry this over to texts. Counts and strings
are always read back, a binary64 number as far as its text is. A list is read back if its items
are, a checked value if the check lets it pass again, and a record if its fields are and each
writes its own part (`Record.readsBack`).
-/

namespace ResourceMeter.Json

namespace Codec

variable {α β : Type}

/-- The codec reads the value back from what it writes for it. -/
def ReadsBack (codec : Codec α) (value : α) : Prop :=
  codec.decode (outline (codec.encode value)) = .ok value

/-- From a text that holds what is written for a value, and nothing else, the value is read back. -/
theorem ReadsBack.read {codec : Codec α} {value : α} (h : codec.ReadsBack value) {s : String}
    (hs : Document.ofText s = ⟨outline (codec.encode value), false⟩) :
    codec.read s = .ok value := by
  unfold Codec.read
  rw [hs]
  dsimp only
  rw [h]
  rfl

/-- From the compact text of a value it is read back. -/
theorem ReadsBack.read_compact {codec : Codec α} {value : α} (h : codec.ReadsBack value) :
    codec.read (codec.encode value).compact = .ok value :=
  h.read (Document.ofText_compact _)

/-- From the pretty text of a value it is read back. -/
theorem ReadsBack.read_pretty {codec : Codec α} {value : α} (h : codec.ReadsBack value) :
    codec.read (codec.encode value).pretty = .ok value :=
  h.read (Document.ofText_pretty _)

/-! ## Plain values -/

/-- A count below a limit that fits into a word is read back. -/
theorem decodeCount_countNumeral {n limit : Nat} (hn : n < limit)
    (hlimit : limit ≤ Decimal.Numeral.wordSize) (wanted : String) :
    decodeCount limit wanted (.leaf (.number (Token.countNumeral n))) = .ok n := by
  unfold decodeCount
  dsimp only
  rw [Token.kind_countNumeral (Nat.lt_of_lt_of_le hn hlimit)]
  exact if_pos hn

/-- Every count of 64 bits is read back. -/
theorem readsBack_uint64 (n : UInt64) : uint64.ReadsBack n := by
  have hcount : decodeCount UInt64.size "u64" (outline (.count n.toNat)) = .ok n.toNat :=
    decodeCount_countNumeral n.toNat_lt_size (Nat.le_refl _) _
  show (decodeCount UInt64.size "u64" (outline (.count n.toNat))).map UInt64.ofNat = _
  rw [hcount]
  exact congrArg Except.ok UInt64.ofNat_toNat

/-- Every string is read back. -/
theorem readsBack_string (s : String) : string.ReadsBack s := rfl

/-- A text that is a number is read as this number. -/
theorem read_of_next? (codec : Codec α) {s : String} {n : Decimal.Numeral}
    (h : Token.next? s.toList = some (.number n, [])) :
    codec.read s = codec.decode (.leaf (.number n)) := by
  have hdocument : Document.ofText s = ⟨.leaf (.number n), false⟩ := by
    unfold Document.ofText
    rw [Token.ofText_of_next? h, Token.ofText]
    rfl
  unfold Codec.read
  rw [hdocument]
  dsimp only
  cases codec.decode (.leaf (.number n)) <;> rfl

/-- A finite number is read back if it is read from its own text. -/
theorem readsBack_float {x : Float} (hx : x.isFinite = true)
    (htext : float.read (floatText x) = .ok x) : float.ReadsBack x := by
  obtain ⟨n, hn⟩ := Token.exists_numberText_floatText hx
  have hnext := Token.next?_append hn .nil
  rw [List.append_nil] at hnext
  have houtline : outline (float.encode x) = .leaf (.number n) := by
    show Outline.leaf (if x.isFinite then floatToken x else .null) = _
    rw [if_pos hx, Token.floatToken_eq hn]
  unfold ReadsBack
  rw [houtline, ← read_of_next? float hnext]
  exact htext

/-! ## Lists and checked values -/

/-- A list is read back if its items are. -/
theorem readsBack_list {codec : Codec α} {items : List α}
    (h : ∀ item ∈ items, codec.ReadsBack item) : (list codec).ReadsBack items := by
  have hitems : (items.map fun item => outline (codec.encode item)).mapM codec.decode =
      .ok items := by
    induction items with
    | nil => rfl
    | cons item items ih =>
      rw [List.map_cons, List.mapM_cons, h item (List.mem_cons_self ..),
        ih fun item hitem => h item (List.mem_cons_of_mem _ hitem)]
      rfl
  unfold ReadsBack list
  dsimp only
  rw [outline, itemOutlines_eq, List.map_map]
  exact hitems

/-- A checked value is read back if what is written for it is and passes the check again. -/
theorem readsBack_checked {codec : Codec β} {check : β → Except String α} {uncheck : α → β}
    {value : α} (hwritten : codec.ReadsBack (uncheck value))
    (hcheck : check (uncheck value) = .ok value) :
    (checked codec check uncheck).ReadsBack value := by
  unfold ReadsBack checked
  dsimp only
  rw [hwritten]
  dsimp only
  rw [hcheck]

end Codec

/-! ## Records -/

variable {σ α : Type}

/-- The field reads from what it writes for the record how to update a record. -/
def Field.ReadsBack (record : σ) (field : Field σ) (update : σ → σ) : Prop :=
  field.decode (outline (field.encode record)) = .ok update

/-- A required field reads back its own part of the record. -/
theorem Field.readsBack_of {name : String} {codec : Codec α} {get : σ → α} {set : α → σ → σ}
    {record : σ} (h : codec.ReadsBack (get record)) :
    (Field.of name codec get set).ReadsBack record (set (get record)) := by
  unfold Field.ReadsBack Field.of
  dsimp only
  rw [h]
  rfl

/-- An optional field reads back its own part of the record. -/
theorem Field.readsBack_optional {name : String} {codec : Codec α} {get : σ → α}
    {set : α → σ → σ} {record : σ} (h : codec.ReadsBack (get record)) :
    (Field.optional name codec get set).ReadsBack record (set (get record)) := by
  have hfield : (Field.of name codec get set).ReadsBack record (set (get record)) :=
    Field.readsBack_of h
  exact hfield

namespace Record

variable {record : Record σ} {value : σ}

/-- The names of the fields are distinct. -/
def NamesDiffer (record : Record σ) : Prop :=
  (record.fields.map (·.name)).Nodup

instance (record : Record σ) : Decidable record.NamesDiffer :=
  inferInstanceAs (Decidable (List.Nodup _))

/-- What `value` is written as, member by member. -/
def written (value : σ) (fields : List (Field σ)) : List (Token × Outline) :=
  fields.map fun field => (.string field.name, outline (field.encode value))

/-- A field that stands behind others is found by its name, which none of the others has. -/
theorem field?_of_fields_eq {before after : List (Field σ)} {field : Field σ}
    (hnames : record.NamesDiffer) (hfields : record.fields = before ++ field :: after) :
    field.name ∉ before.map (·.name) ∧ record.field? field.name = some field := by
  have hfresh : field.name ∉ before.map (·.name) := by
    unfold NamesDiffer at hnames
    rw [hfields, List.map_append, List.map_cons] at hnames
    intro hmem
    exact List.disjoint_of_nodup_append hnames hmem (List.mem_cons_self ..)
  refine ⟨hfresh, List.find?_eq_some_iff_append.2 ⟨beq_self_eq_true _, before, after, hfields, ?_⟩⟩
  intro other hother
  rw [Bool.not_eq_true', beq_eq_false_iff_ne]
  intro heq
  exact hfresh (heq ▸ List.mem_map_of_mem hother)

/-- The last fields of a record are read one after the other, if the ones before were. -/
theorem decodeMembers_written (hnames : record.NamesDiffer) {fields : List (Field σ)}
    {updates : List (σ → σ)} (hread : List.Forall₂ (Field.ReadsBack value) fields updates) :
    ∀ {before : List (Field σ)}, record.fields = before ++ fields → ∀ sofar : σ,
      record.decodeMembers (written value fields) (before.reverse.map (·.name)) sofar =
        .ok (updates.foldl (fun record update => update record) sofar) := by
  induction hread with
  | nil =>
    intro before hfields sofar
    rw [List.append_nil] at hfields
    have hseen : record.fields.find? (fun field => field.required &&
        !(before.reverse.map (·.name)).contains field.name) = none := by
      rw [List.find?_eq_none]
      intro field hfield
      have hmem : field.name ∈ before.reverse.map (·.name) :=
        List.mem_map_of_mem (List.mem_reverse.2 (hfields ▸ hfield))
      rw [List.contains_iff_mem.2 hmem, Bool.not_true, Bool.and_false]
      exact Bool.false_ne_true
    unfold written
    rw [List.map_nil, decodeMembers, hseen]
    rfl
  | @cons field update fields updates hfield _ ih =>
    intro before hfields sofar
    obtain ⟨hfresh, hfound⟩ := field?_of_fields_eq hnames hfields
    have hunseen : (before.reverse.map (·.name)).contains field.name = false := by
      rw [List.map_reverse, ← Bool.not_eq_true, List.contains_iff_mem, List.mem_reverse]
      exact hfresh
    have hnext : record.fields = (before ++ [field]) ++ fields := by
      rw [hfields, List.append_assoc, List.singleton_append]
    have hstep := ih hnext (update sofar)
    rw [List.reverse_append, List.reverse_singleton, List.singleton_append, List.map_cons] at hstep
    unfold written
    rw [List.map_cons, decodeMembers, hfound]
    dsimp only
    rw [hunseen, if_neg Bool.false_ne_true, hfield]
    exact hstep

/-- A record is read back if each field is and if the updates, one after the other, make the record
out of the blank one. -/
theorem readsBack {updates : List (σ → σ)} (hnames : record.NamesDiffer)
    (hread : List.Forall₂ (Field.ReadsBack value) record.fields updates)
    (hupdates : updates.foldl (fun record update => update record) record.blank = value) :
    record.codec.ReadsBack value := by
  have h := decodeMembers_written hnames hread (List.nil_append _).symm record.blank
  unfold Codec.ReadsBack codec
  dsimp only
  rw [outline, memberOutlines_eq, List.map_map]
  rw [hupdates] at h
  exact h

end Record

end ResourceMeter.Json
