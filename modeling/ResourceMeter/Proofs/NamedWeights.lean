import ResourceMeter.Proofs.Json.Members
import ResourceMeter.Proofs.SnapshotDraft

/-!
# Ledger weights by position and by name

The weight of a ledger dimension is the one at the place of the dimension in the reporting order
(`LedgerWeights.getElem?_of_of`), and in JSON the member that has the name of the dimension:
weights are written so (`LedgerWeights.encode_eq`), and an object that is read as weights names each
dimension once (`LedgerWeights.namedOnce`), in any order.
-/

namespace ResourceMeter

open Json

/-! ## Positions -/

/-- The weight of a dimension is the element at the place of the dimension. -/
theorem LedgerWeights.getElem?_of_of {α : Type} [Arithmetic α] {weights : Vector α 5}
    {group : LedgerWeights α} (h : of weights = .ok group) (dimension : LedgerDimension) :
    weights[LedgerDimension.all.idxOf dimension]? = some (group.weight dimension) := by
  rw [← weights_of_of h]
  cases dimension <;> rfl

/-! ## Names -/

/-- Different dimensions have different names. -/
theorem LedgerDimension.key_injective {d e : LedgerDimension} (h : d.key = e.key) : d = e := by
  revert h
  cases d <;> cases e <;> decide

namespace LedgerVector

variable {α : Type}

/-- The vector with another value for one dimension. -/
def set (v : LedgerVector α) (dimension : LedgerDimension) (x : α) : LedgerVector α :=
  .ofFn fun d => if d = dimension then x else v.get d

/-- The value that was set is there. -/
theorem get_set_self (v : LedgerVector α) (d : LedgerDimension) (x : α) :
    (v.set d x).get d = x := by
  rw [set, get_ofFn, if_pos rfl]

/-- The values of other dimensions stay. -/
theorem get_set_of_ne (v : LedgerVector α) {d e : LedgerDimension} (h : e ≠ d) (x : α) :
    (v.set d x).get e = v.get e := by
  rw [set, get_ofFn, if_neg h]

/-- The fields of the record are the dimensions. -/
theorem fields_record (title : String) : (record title).fields = LedgerDimension.all.map fun d =>
    .of d.key .float (·.get d) fun x v => v.set d x :=
  rfl

/-- Every dimension has a field. -/
theorem mem_fields (title : String) (d : LedgerDimension) :
    .of d.key .float (·.get d) (fun x v => v.set d x) ∈ (record title).fields := by
  rw [fields_record]
  exact List.mem_map.2 ⟨d, d.mem_all, rfl⟩

/-- A name that finds a field is that of a dimension, whose value the field reads. -/
theorem of_field? {title name : String} {field : Json.Field (LedgerVector Float)}
    (h : (record title).field? name = some field) : ∃ d : LedgerDimension, name = d.key ∧
      ∀ outline update, field.decode outline = .ok update →
        ∃ x, Codec.float.decode outline = .ok x ∧ ∀ v, update v = v.set d x := by
  obtain rfl := Record.name_of_field? h
  have hmem := List.mem_of_find?_eq_some h
  rw [fields_record, List.mem_map] at hmem
  obtain ⟨d, -, rfl⟩ := hmem
  refine ⟨d, rfl, fun outline update hupdate => ?_⟩
  obtain ⟨x, hx, rfl⟩ := Field.sets_of.eq_ok_iff.1 hupdate
  exact ⟨x, hx, fun _ => rfl⟩

/-- A name that finds no field is that of no dimension. -/
theorem of_field?_eq_none {title name : String} (h : (record title).field? name = none)
    (d : LedgerDimension) : name ≠ d.key := by
  rintro rfl
  exact Record.field?_ne_none (mem_fields title d) h

end LedgerVector

/-! ## Objects that are read as weights -/

namespace LedgerDimension

/-- The members that have the name of a dimension. -/
def members (dimension : LedgerDimension) (object : List (Token × Outline)) :
    List (Token × Outline) :=
  object.filter fun member => member.1 == .string dimension.key

/-- Exactly one member has the name of the dimension, and it is read as the given number. -/
def NamedOnce (dimension : LedgerDimension) (object : List (Token × Outline)) (x : Float) : Prop :=
  ∃ name outline, dimension.members object = [(name, outline)] ∧ Codec.float.decode outline = .ok x

variable {dimension : LedgerDimension} {object : List (Token × Outline)} {outline : Outline}

/-- A member with the name of the dimension counts. -/
theorem members_cons_self : dimension.members ((.string dimension.key, outline) :: object) =
    (.string dimension.key, outline) :: dimension.members object :=
  List.filter_cons_of_pos (beq_self_eq_true _)

/-- A member with another name does not count. -/
theorem members_cons_of_ne {name : String} (h : name ≠ dimension.key) :
    dimension.members ((.string name, outline) :: object) = dimension.members object :=
  List.filter_cons_of_neg (by simpa using h)

end LedgerDimension

/-- Members that are read leave a dimension of which there was a member before as it is, and name
every other dimension once. -/
theorem LedgerVector.decodeMembers_eq_ok {title : String} {object : List (Token × Outline)}
    {seen : List String} {v w : LedgerVector Float}
    (h : (record title).decodeMembers object seen v = .ok w) (d : LedgerDimension) :
    (d.key ∈ seen → d.members object = [] ∧ w.get d = v.get d) ∧
      (d.key ∉ seen → d.NamedOnce object (w.get d)) := by
  induction object generalizing seen v with
  | nil =>
    obtain ⟨hseen, rfl⟩ := Record.decodeMembers_nil_eq_ok_iff.1 h
    have hd : d.key ∈ seen := hseen _ (mem_fields title d) rfl
    exact ⟨fun _ => ⟨rfl, rfl⟩, fun hnot => absurd hd hnot⟩
  | cons member object ih =>
    obtain ⟨name, outline, rfl,
      ⟨hnone, -, hrest⟩ | ⟨field, update, hfield, hnew, hupdate, hrest⟩⟩ :=
      Record.decodeMembers_cons_eq_ok_iff.1 h
    · have hname := of_field?_eq_none hnone d
      unfold LedgerDimension.NamedOnce
      rw [LedgerDimension.members_cons_of_ne hname]
      exact ih hrest
    · obtain ⟨e, rfl, hdecode⟩ := of_field? hfield
      obtain ⟨x, hx, hset⟩ := hdecode outline update hupdate
      obtain ⟨hseen, hnamed⟩ := ih hrest
      rw [hset] at hseen
      by_cases hde : d = e
      · subst hde
        obtain ⟨hnomore, hget⟩ := hseen (List.mem_cons_self ..)
        rw [get_set_self] at hget
        refine ⟨fun hd => absurd hd hnew, fun _ => ⟨.string d.key, outline, ?_, hget ▸ hx⟩⟩
        rw [LedgerDimension.members_cons_self, hnomore]
      · have hname : e.key ≠ d.key := fun hkey => hde (LedgerDimension.key_injective hkey.symm)
        unfold LedgerDimension.NamedOnce at hnamed ⊢
        rw [LedgerDimension.members_cons_of_ne hname]
        rw [get_set_of_ne _ hde] at hseen
        exact ⟨fun hd => hseen (List.mem_cons_of_mem _ hd),
          fun hd => hnamed fun hmem => (List.mem_cons.1 hmem).elim (fun hkey => hname hkey.symm) hd⟩

/-- An object that is read as weights names each dimension once, with its weight. -/
theorem LedgerWeights.namedOnce {object : List (Token × Outline)} {group : LedgerWeights Float}
    (h : codec.decode (.object object) = .ok group) (d : LedgerDimension) :
    d.NamedOnce object (group.weight d) := by
  rw [← group.get_toNamed d]
  exact (LedgerVector.decodeMembers_eq_ok (codec_refines _ _ h) d).2 List.not_mem_nil

/-- Weights are written as members with the names of the dimensions. -/
theorem LedgerWeights.encode_eq (group : LedgerWeights Float) : codec.encode group =
    .object (LedgerDimension.all.map fun d => (d.key, .float (group.weight d))) :=
  rfl

end ResourceMeter
