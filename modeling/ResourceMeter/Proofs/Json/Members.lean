import Mathlib.Data.List.Pairwise
import Mathlib.Data.List.Perm.Basic
import Mathlib.Logic.Function.Conjugate
import ResourceMeter.Json.Record

/-!
# What makes up a record

Reading an object is a fold over its members. `Record.MakeUp` says what the fold does without
following it: each member has an effect on the record (`Record.Effect`), no two members have the
name of one field, and no required field is missing. An object is read if and only if its members
make up a record, which is then the blank one after all effects (`Record.decode_object_eq_ok_iff`).
Lists are read field by field (`Record.decodeItems_eq_ok`).

In a lawful record fields are updated independently of each other. The order of the members is then
of no account (`Record.MakeUp.perm`), and what a field has in the record that is read is what was
given for it, by name or by position (`Record.Lawful.reads_given`).
-/

namespace ResourceMeter.Json

variable {σ α β : Type}

/-! ## Lists side by side -/

section Forall₂

variable {R : α → β → Prop} {l : List α} {l' : List β}

/-- What is in the one list has its like in the other. -/
theorem exists_right_of_mem (h : List.Forall₂ R l l') {a : α} (ha : a ∈ l) : ∃ b ∈ l', R a b := by
  obtain ⟨i, hi, rfl⟩ := List.mem_iff_getElem.1 ha
  have hi' : i < l'.length := h.length_eq ▸ hi
  exact ⟨l'[i], List.getElem_mem hi', h.get hi hi'⟩

/-- What holds for all pairs of the one list carries over to those of the other. -/
theorem pairwise_right {S : α → α → Prop} {T : β → β → Prop} (h : List.Forall₂ R l l')
    (hpairs : l.Pairwise S) (hcarry : ∀ a a' b b', S a a' → R a b → R a' b' → T b b') :
    l'.Pairwise T := by
  rw [List.pairwise_iff_getElem] at hpairs ⊢
  intro i j hi hj hij
  have hi' : i < l.length := h.length_eq ▸ hi
  have hj' : j < l.length := h.length_eq ▸ hj
  exact hcarry _ _ _ _ (hpairs i j hi' hj' hij) (h.get hi' hi) (h.get hj' hj)

end Forall₂

/-! ## Updates -/

/-- The record after the updates, one after the other. -/
def applied (updates : List (σ → σ)) (value : σ) : σ :=
  updates.foldl (fun record update => update record) value

instance : Std.Symm (Function.Commute (α := σ)) :=
  ⟨fun _ _ h => h.symm⟩

/-- Updates that commute may be applied in any order. -/
theorem applied_perm {updates updates' : List (σ → σ)} (hperm : updates.Perm updates')
    (hcommute : updates.Pairwise Function.Commute) (value : σ) :
    applied updates value = applied updates' value := by
  have hall := hcommute.forall_of_forall fun update _ => Function.Commute.refl update
  exact hperm.foldl_eq' (fun _ hu _ hu' record => hall hu' hu record) value

/-- Each of several updates that commute may be the last one. -/
theorem exists_eq_applied_last {updates : List (σ → σ)} {update : σ → σ} (h : update ∈ updates)
    (hcommute : updates.Pairwise Function.Commute) (value : σ) :
    ∃ record, applied updates value = update record := by
  obtain ⟨before, after, rfl⟩ := List.append_of_mem h
  have hperm : (before ++ update :: after).Perm (before ++ after ++ [update]) :=
    List.perm_middle.trans (List.perm_append_singleton _ _).symm
  refine ⟨applied (before ++ after) value, ?_⟩
  rw [applied_perm hperm hcommute]
  exact List.foldl_append

/-! ## Fields -/

namespace Field

variable {field other : Field σ}

/-- The field is read by the codec, and what is read updates the record by `set`. -/
def Sets (field : Field σ) (codec : Codec α) (set : α → σ → σ) : Prop :=
  ∀ part, field.decode part = (codec.decode part).map set

/-- A required field sets what it reads. -/
theorem sets_of {name : String} {codec : Codec α} {get : σ → α} {set : α → σ → σ} :
    (Field.of name codec get set).Sets codec set :=
  fun _ => rfl

/-- A field that may be missing sets what it reads, if it is there. -/
theorem sets_optional {name : String} {codec : Codec α} {get : σ → α} {set : α → σ → σ} :
    (Field.optional name codec get set).Sets codec set :=
  fun _ => rfl

/-- What a field reads is an update by what its codec reads. -/
theorem Sets.eq_ok_iff {codec : Codec α} {set : α → σ → σ} (h : field.Sets codec set)
    {part : Outline} {update : σ → σ} :
    field.decode part = .ok update ↔ ∃ x, codec.decode part = .ok x ∧ set x = update := by
  rw [h part]
  cases codec.decode part with
  | ok x =>
    refine ⟨fun heq => ⟨x, rfl, Except.ok.inj heq⟩, ?_⟩
    rintro ⟨_, hx, rfl⟩
    cases hx
    rfl
  | error fault => exact ⟨nofun, nofun⟩

/-- All updates of the one field commute with those of the other. -/
def Independent (field other : Field σ) : Prop :=
  ∀ part part' update update', field.decode part = .ok update →
    other.decode part' = .ok update' → Function.Commute update update'

/-- Fields are independent if what they set is. -/
theorem Sets.independent {codec : Codec α} {codec' : Codec β} {set : α → σ → σ} {set' : β → σ → σ}
    (h : field.Sets codec set) (h' : other.Sets codec' set')
    (hset : ∀ x y record, set x (set' y record) = set' y (set x record)) :
    field.Independent other := by
  intro part part' update update' hupdate hupdate'
  obtain ⟨x, -, rfl⟩ := h.eq_ok_iff.1 hupdate
  obtain ⟨y, -, rfl⟩ := h'.eq_ok_iff.1 hupdate'
  exact hset x y

section Independent

variable {name name' : String} {codec : Codec α} {codec' : Codec β} {get : σ → α} {get' : σ → β}
  {set : α → σ → σ} {set' : β → σ → σ}

/-- Fields of a record are independent if they set different parts of it. With the next two lemmas
this decides whether a whole list of fields is lawful. -/
@[simp]
theorem independent_of_of (hset : ∀ x y record, set x (set' y record) = set' y (set x record)) :
    (of name codec get set).Independent (of name' codec' get' set') :=
  sets_of.independent sets_of hset

/-- That a field may be missing is of no account for its independence. -/
@[simp]
theorem independent_optional_left :
    (optional name codec get set).Independent other ↔ (of name codec get set).Independent other :=
  Iff.rfl

/-- That the other field may be missing is of no account either. -/
@[simp]
theorem independent_optional_right :
    field.Independent (optional name codec get set) ↔ field.Independent (of name codec get set) :=
  Iff.rfl

end Independent

instance : Std.Symm (Independent (σ := σ)) :=
  ⟨fun _ _ h part part' _ _ hupdate hupdate' => (h part' part _ _ hupdate' hupdate).symm⟩

end Field

namespace Record

variable {record : Record σ}

/-- The fields are independent of each other. -/
def Lawful (record : Record σ) : Prop :=
  record.fields.Pairwise Field.Independent

/-! ## Objects -/

/-- What a member does to the record that is read: nothing if it has the name of no field, and else
what the field reads from it. -/
inductive Effect (record : Record σ) : Token × Outline → (σ → σ) → Prop
  | skip {name : String} {part : Outline} : record.field? name = none → part.isWellFormed = true →
      Effect record (.string name, part) id
  | set {name : String} {part : Outline} {field : Field σ} {update : σ → σ} :
      record.field? name = some field → field.decode part = .ok update →
      Effect record (.string name, part) update

/-- Both members have the name of one field. -/
def Clash (record : Record σ) (member member' : Token × Outline) : Prop :=
  ∃ name field, record.field? name = some field ∧ member.1 = .string name ∧ member'.1 = .string name

/-- Behind members with the names `seen`, the members make up a record by their updates. -/
structure MakeUp (record : Record σ) (seen : List String) (members : List (Token × Outline))
    (updates : List (σ → σ)) : Prop where
  effects : List.Forall₂ record.Effect members updates
  once : members.Pairwise fun member member' => ¬ record.Clash member member'
  fresh : ∀ name ∈ seen, ∀ part, (.string name, part) ∈ members → record.field? name = none
  complete : ∀ field ∈ record.fields, field.required = true →
    field.name ∈ seen ∨ ∃ part, (.string field.name, part) ∈ members

variable {seen : List String} {members members' : List (Token × Outline)} {name : String}
  {part : Outline} {updates : List (σ → σ)} {value result : σ}

/-- An object may end where no required field is missing. -/
theorem decodeMembers_nil_eq_ok_iff : record.decodeMembers [] seen value = .ok result ↔
    (∀ field ∈ record.fields, field.required = true → field.name ∈ seen) ∧ value = result := by
  have hmissing : record.fields.find? (fun field => field.required && !seen.contains field.name) =
      none ↔ ∀ field ∈ record.fields, field.required = true → field.name ∈ seen := by
    rw [List.find?_eq_none]
    simp only [Bool.and_eq_true, Bool.not_eq_true', List.contains_eq_mem, decide_eq_false_iff_not,
      not_and, not_not]
  rw [decodeMembers, ← hmissing]
  cases record.fields.find? fun field => field.required && !seen.contains field.name with
  | none => simp
  | some field => simp

/-- A member that is read has the name of no field, or it updates the record by its field, of which
there was no member before. -/
theorem decodeMembers_cons_eq_ok_iff {member : Token × Outline} :
    record.decodeMembers (member :: members) seen value = .ok result ↔ ∃ name part,
      member = (.string name, part) ∧
      ((record.field? name = none ∧ part.isWellFormed = true ∧
          record.decodeMembers members seen value = .ok result) ∨
        ∃ field update, record.field? name = some field ∧ name ∉ seen ∧
          field.decode part = .ok update ∧
          record.decodeMembers members (name :: seen) (update value) = .ok result) := by
  constructor
  · intro h
    obtain ⟨token, part⟩ := member
    cases token with
    | string name =>
      refine ⟨name, part, rfl, ?_⟩
      unfold decodeMembers at h
      split at h
      · next hnone =>
        split at h
        · next hform => exact .inl ⟨hnone, hform, h⟩
        · cases h
      · next field hfield =>
        split at h
        · cases h
        · next hseen =>
          split at h
          · next update hupdate =>
            exact .inr ⟨field, update, hfield, by simpa using hseen, hupdate, h⟩
          · cases h
    | _ => cases h
  · rintro ⟨name, part, rfl, ⟨hnone, hform, h⟩ | ⟨field, update, hfield, hseen, hupdate, h⟩⟩
    · rw [decodeMembers, hnone]
      dsimp only
      rw [if_pos hform, h]
    · rw [decodeMembers, hfield]
      dsimp only
      rw [if_neg (by simpa using hseen), hupdate]
      exact h

/-- The field that is found by a name has this name. -/
theorem name_of_field? {field : Field σ} (h : record.field? name = some field) :
    field.name = name := by
  unfold field? at h
  have hname := List.find?_some h
  exact beq_iff_eq.1 hname

/-- A field is found by its name, or another one is. -/
theorem field?_ne_none {field : Field σ} (h : field ∈ record.fields) :
    record.field? field.name ≠ none := by
  intro hnone
  exact List.find?_eq_none.1 hnone field h (beq_self_eq_true _)

/-- A member that is skipped is not part of what makes up a record. -/
theorem makeUp_cons_skip_iff (hnone : record.field? name = none)
    (hform : part.isWellFormed = true) :
    record.MakeUp seen ((.string name, part) :: members) (id :: updates) ↔
      record.MakeUp seen members updates := by
  have hother {field : Field σ} (hfield : field ∈ record.fields) : field.name ≠ name :=
    fun heq => field?_ne_none hfield (heq ▸ hnone)
  constructor
  · rintro ⟨heffects, honce, hfresh, hcomplete⟩
    refine ⟨(List.forall₂_cons.1 heffects).2, (List.pairwise_cons.1 honce).2,
      fun n hn p hp => hfresh n hn p (List.mem_cons_of_mem _ hp), fun field hfield hrequired => ?_⟩
    refine (hcomplete field hfield hrequired).imp_right fun ⟨p, hp⟩ => ⟨p, ?_⟩
    exact (List.mem_cons.1 hp).resolve_left fun heq => by cases heq; exact hother hfield rfl
  · rintro ⟨heffects, honce, hfresh, hcomplete⟩
    refine ⟨.cons (.skip hnone hform) heffects, .cons ?_ honce, fun n hn p hp => ?_,
      fun field hfield hrequired => (hcomplete field hfield hrequired).imp_right
        fun ⟨p, hp⟩ => ⟨p, List.mem_cons_of_mem _ hp⟩⟩
    · rintro member - ⟨n, field, hfield, hn, -⟩
      cases hn
      rw [hnone] at hfield
      cases hfield
    · rcases List.mem_cons.1 hp with heq | hp
      · cases heq
        exact hnone
      · exact hfresh n hn p hp

/-- A member of a field comes behind none of the same name, and none of its name comes behind it. -/
theorem makeUp_cons_set_iff {field : Field σ} {update : σ → σ}
    (hfield : record.field? name = some field) (hupdate : field.decode part = .ok update) :
    record.MakeUp seen ((.string name, part) :: members) (update :: updates) ↔
      name ∉ seen ∧ record.MakeUp (name :: seen) members updates := by
  constructor
  · rintro ⟨heffects, honce, hfresh, hcomplete⟩
    obtain ⟨hclash, honce⟩ := List.pairwise_cons.1 honce
    refine ⟨fun hseen => ?_, (List.forall₂_cons.1 heffects).2, honce, fun n hn p hp => ?_,
      fun field hfield hrequired => ?_⟩
    · rw [hfresh name hseen part (List.mem_cons_self ..)] at hfield
      cases hfield
    · rcases List.mem_cons.1 hn with rfl | hn
      · exact absurd ⟨n, field, hfield, rfl, rfl⟩ (hclash _ hp)
      · exact hfresh n hn p (List.mem_cons_of_mem _ hp)
    · obtain hseen | ⟨p, hp⟩ := hcomplete field hfield hrequired
      · exact .inl (List.mem_cons_of_mem _ hseen)
      · rcases List.mem_cons.1 hp with heq | hp
        · cases heq
          exact .inl (List.mem_cons_self ..)
        · exact .inr ⟨p, hp⟩
  · rintro ⟨hseen, heffects, honce, hfresh, hcomplete⟩
    refine ⟨.cons (.set hfield hupdate) heffects, .cons ?_ honce, fun n hn p hp => ?_,
      fun field hfield hrequired => ?_⟩
    · rintro member hmember ⟨n, other, hother, hn, hname⟩
      cases hn
      obtain ⟨_, p⟩ := member
      cases hname
      rw [hfresh name (List.mem_cons_self ..) p hmember] at hother
      cases hother
    · rcases List.mem_cons.1 hp with heq | hp
      · cases heq
        exact absurd hn hseen
      · exact hfresh n (List.mem_cons_of_mem _ hn) p hp
    · obtain hname | ⟨p, hp⟩ := hcomplete field hfield hrequired
      · rcases List.mem_cons.1 hname with heq | hname
        · exact .inr ⟨part, heq ▸ List.mem_cons_self ..⟩
        · exact .inl hname
      · exact .inr ⟨p, List.mem_cons_of_mem _ hp⟩

/-- Members are read if and only if they make up a record, which is then what the updates make of
the one before. -/
theorem decodeMembers_eq_ok_iff : record.decodeMembers members seen value = .ok result ↔
    ∃ updates, record.MakeUp seen members updates ∧ applied updates value = result := by
  induction members generalizing seen value with
  | nil =>
    rw [decodeMembers_nil_eq_ok_iff]
    constructor
    · rintro ⟨hcomplete, rfl⟩
      exact ⟨[], ⟨.nil, .nil, nofun, fun field hfield hrequired =>
        .inl (hcomplete field hfield hrequired)⟩, rfl⟩
    · rintro ⟨updates, hmakeUp, rfl⟩
      cases hmakeUp.effects
      exact ⟨fun field hfield hrequired => (hmakeUp.complete field hfield hrequired).resolve_right
        fun ⟨_, hmem⟩ => List.not_mem_nil hmem, rfl⟩
  | cons member members ih =>
    rw [decodeMembers_cons_eq_ok_iff]
    constructor
    · rintro ⟨name, part, rfl, ⟨hnone, hform, h⟩ | ⟨field, update, hfield, hseen, hupdate, h⟩⟩
      · obtain ⟨updates, hmakeUp, hresult⟩ := ih.1 h
        exact ⟨id :: updates, (makeUp_cons_skip_iff hnone hform).2 hmakeUp, hresult⟩
      · obtain ⟨updates, hmakeUp, hresult⟩ := ih.1 h
        exact ⟨update :: updates, (makeUp_cons_set_iff hfield hupdate).2 ⟨hseen, hmakeUp⟩, hresult⟩
    · rintro ⟨updates, hmakeUp, hresult⟩
      obtain ⟨update, updates, heffect, -, rfl⟩ := List.forall₂_cons_left_iff.1 hmakeUp.effects
      cases heffect with
      | @skip name part hnone hform =>
        refine ⟨name, part, rfl, .inl ⟨hnone, hform, ih.2 ⟨updates, ?_, hresult⟩⟩⟩
        exact (makeUp_cons_skip_iff hnone hform).1 hmakeUp
      | @set name part field _ hfield hupdate =>
        obtain ⟨hseen, hmakeUp⟩ := (makeUp_cons_set_iff hfield hupdate).1 hmakeUp
        exact ⟨name, part, rfl, .inr ⟨field, update, hfield, hseen, hupdate,
          ih.2 ⟨updates, hmakeUp, hresult⟩⟩⟩

/-- An object is read as a record if and only if its members make up one. -/
theorem decode_object_eq_ok_iff : record.codec.decode (.object members) = .ok result ↔
    ∃ updates, record.MakeUp [] members updates ∧ applied updates record.blank = result :=
  decodeMembers_eq_ok_iff

namespace MakeUp

/-- The updates of a lawful record commute. -/
theorem commute (h : record.MakeUp seen members updates) (hlawful : record.Lawful) :
    updates.Pairwise Function.Commute := by
  refine pairwise_right h.effects h.once ?_
  intro member member' update update' hclash heffect heffect'
  cases heffect with
  | skip => exact fun _ => rfl
  | @set name part field _ hfield hupdate =>
    cases heffect' with
    | skip => exact fun _ => rfl
    | @set name' part' field' _ hfield' hupdate' =>
      have hne : field ≠ field' := by
        rintro rfl
        obtain rfl := name_of_field? hfield
        obtain rfl := name_of_field? hfield'
        exact hclash ⟨_, field, hfield, rfl, rfl⟩
      exact hlawful.forall (List.mem_of_find?_eq_some hfield)
        (List.mem_of_find?_eq_some hfield') hne _ _ _ _ hupdate hupdate'

/-- The members make up the record in any order. -/
theorem perm (h : record.MakeUp seen members updates) (hperm : members.Perm members') :
    ∃ updates', record.MakeUp seen members' updates' ∧ updates.Perm updates' := by
  obtain ⟨updates', heffects, hupdates⟩ := List.perm_comp_forall₂ hperm.symm h.effects
  refine ⟨updates', ⟨heffects, ?_, fun name hname part hpart =>
    h.fresh name hname part (hperm.mem_iff.2 hpart), fun field hfield hrequired =>
    (h.complete field hfield hrequired).imp_right fun ⟨p, hp⟩ => ⟨p, hperm.mem_iff.1 hp⟩⟩,
    hupdates.symm⟩
  refine (hperm.pairwise_iff ?_).1 h.once
  rintro _ _ hclash ⟨name, field, hfield, hmember, hmember'⟩
  exact hclash ⟨name, field, hfield, hmember', hmember⟩

end MakeUp

/-- In a lawful record the members of an object may have any order. -/
theorem Lawful.decode_perm (hlawful : record.Lawful) (hperm : members.Perm members')
    (h : record.codec.decode (.object members) = .ok result) :
    record.codec.decode (.object members') = .ok result := by
  obtain ⟨updates, hmakeUp, hresult⟩ := decode_object_eq_ok_iff.1 h
  obtain ⟨updates', hmakeUp', hupdates⟩ := hmakeUp.perm hperm
  refine decode_object_eq_ok_iff.2 ⟨updates', hmakeUp', ?_⟩
  rw [← applied_perm hupdates (hmakeUp.commute hlawful), hresult]

/-! ## Lists -/

/-- Items are read by the fields in their order, and only optional fields may be left. -/
theorem decodeItems_eq_ok {fields : List (Field σ)} {items : List Outline} {index : Nat}
    (h : record.decodeItems fields items index value = .ok result) :
    (∃ updates, List.Forall₂ (fun place update => place.1.decode place.2 = .ok update)
        (fields.zip items) updates ∧ applied updates value = result) ∧
      items.length ≤ fields.length ∧
      ∀ i field, fields[i]? = some field → field.required = true → i < items.length := by
  induction fields generalizing items index value with
  | nil =>
    cases items with
    | nil =>
      cases h
      exact ⟨⟨[], .nil, rfl⟩, Nat.le_refl _, nofun⟩
    | cons item items => cases h
  | cons field fields ih =>
    cases items with
    | nil =>
      rw [decodeItems] at h
      split at h
      · cases h
      · next hrequired =>
        obtain ⟨⟨updates, hupdates, hresult⟩, -, hcomplete⟩ := ih h
        rw [List.zip_nil_right] at hupdates ⊢
        refine ⟨⟨updates, hupdates, hresult⟩, Nat.zero_le _, fun i other hother hneeded => ?_⟩
        cases i with
        | zero =>
          cases hother
          exact absurd hneeded hrequired
        | succ i => exact absurd (hcomplete i other hother hneeded) (Nat.not_lt_zero i)
    | cons item items =>
      rw [decodeItems] at h
      split at h
      · next update hupdate =>
        obtain ⟨⟨updates, hupdates, hresult⟩, hlength, hcomplete⟩ := ih h
        refine ⟨⟨update :: updates, .cons hupdate hupdates, hresult⟩, Nat.succ_le_succ hlength,
          fun i other hother hneeded => ?_⟩
        cases i with
        | zero => exact Nat.succ_pos _
        | succ i => exact Nat.succ_lt_succ (hcomplete i other hother hneeded)
      · cases h

/-! ## What a text gives for a field -/

/-- The value stands for the field of that name: behind the name in an object, or in the place of
the field in a list. -/
inductive Gives (record : Record σ) (name : String) : Outline → Outline → Prop
  | member {members : List (Token × Outline)} {part : Outline} : (.string name, part) ∈ members →
      Gives record name (.object members) part
  | item {items : List Outline} {part : Outline} {i : Nat} {field : Field σ} :
      record.field? name = some field → record.fields[i]? = some field → items[i]? = some part →
      Gives record name (.list items) part

variable {outline : Outline}

/-- What is given for a field is read by it. -/
theorem Gives.decode (hgives : record.Gives name outline part) {field : Field σ}
    (hfield : record.field? name = some field) (hlawful : record.Lawful)
    (h : record.codec.decode outline = .ok result) :
    ∃ update value, field.decode part = .ok update ∧ result = update value := by
  cases hgives with
  | member hmember =>
    obtain ⟨updates, hmakeUp, rfl⟩ := decode_object_eq_ok_iff.1 h
    obtain ⟨update, hmem, heffect⟩ := exists_right_of_mem hmakeUp.effects hmember
    obtain ⟨value, hvalue⟩ := exists_eq_applied_last hmem (hmakeUp.commute hlawful) record.blank
    cases heffect with
    | skip hnone =>
      rw [hnone] at hfield
      cases hfield
    | set hfound hupdate =>
      cases hfound.symm.trans hfield
      exact ⟨update, value, hupdate, hvalue⟩
  | @item items _ i found hfound hplace hitem =>
    cases hfound.symm.trans hfield
    obtain ⟨⟨updates, hupdates, rfl⟩, -⟩ := decodeItems_eq_ok h
    have hzip : (record.fields.zip items)[i]? = some (field, part) :=
      List.getElem?_zip_eq_some.2 ⟨hplace, hitem⟩
    have hplaces : (record.fields.zip items).Pairwise fun place place' =>
        place.1.Independent place'.1 := by
      rw [List.pairwise_iff_getElem]
      intro i j hi hj hij
      rw [List.getElem_zip, List.getElem_zip]
      exact List.pairwise_iff_getElem.1 hlawful i j _ _ hij
    obtain ⟨update, hmem, hupdate⟩ := exists_right_of_mem hupdates (List.mem_of_getElem? hzip)
    have hcommute := pairwise_right hupdates hplaces fun _ _ update update' hindependent hread
      hread' => hindependent _ _ update update' hread hread'
    obtain ⟨value, hvalue⟩ := exists_eq_applied_last hmem hcommute record.blank
    exact ⟨update, value, hupdate, hvalue⟩

/-- Something is given for every required field. -/
theorem exists_gives {field : Field σ} (hfield : record.field? name = some field)
    (hrequired : field.required = true) (h : record.codec.decode outline = .ok result) :
    ∃ part, record.Gives name outline part := by
  obtain rfl := name_of_field? hfield
  have hmem := List.mem_of_find?_eq_some hfield
  cases outline with
  | leaf token => cases h
  | object members =>
    obtain ⟨updates, hmakeUp, rfl⟩ := decode_object_eq_ok_iff.1 h
    obtain ⟨part, hpart⟩ := (hmakeUp.complete field hmem hrequired).resolve_left List.not_mem_nil
    exact ⟨part, .member hpart⟩
  | list items =>
    obtain ⟨i, hi⟩ := List.mem_iff_getElem?.1 hmem
    obtain ⟨-, -, hcomplete⟩ := decodeItems_eq_ok h
    exact ⟨_, .item hfield hi (List.getElem?_eq_getElem (hcomplete i field hi hrequired))⟩

/-- What a required field has in a record that is read is what its codec reads from whatever is
given for it, and something is given for it. -/
theorem Lawful.reads_given (hlawful : record.Lawful) {codec : Codec α} {get : σ → α}
    {set : α → σ → σ} (hfield : record.field? name = some (.of name codec get set))
    (hget : ∀ x record, get (set x record) = x)
    (h : record.codec.decode outline = .ok result) :
    (∃ part, record.Gives name outline part) ∧
      ∀ part, record.Gives name outline part → codec.decode part = .ok (get result) := by
  refine ⟨exists_gives hfield rfl h, fun part hgives => ?_⟩
  obtain ⟨update, value, hupdate, rfl⟩ := hgives.decode hfield hlawful h
  obtain ⟨x, hx, rfl⟩ := Field.sets_of.eq_ok_iff.1 hupdate
  rw [hget, hx]

end Record

end ResourceMeter.Json
