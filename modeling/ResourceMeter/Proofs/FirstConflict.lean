import Mathlib.Data.Finset.Card
import ResourceMeter.Cost.Ledger

/-!
# The first conflict of a footprint

`Footprint.FirstConflict` says which conflict a footprint has by the places of its keys in the two
lists, and `Footprint.conflict?_eq_some_iff` that the passes over the lists, each with a growing set
of keys, find exactly this one. Whether there is a conflict at all depends on the keys of both lists
together (`Footprint.conflict?_eq_none_iff`): neither on their order nor on the list that they are
in. A footprint that passes is charged for each of its keys once.
-/

namespace ResourceMeter

open Arithmetic

/-! ## First repetitions -/

/-- The key at the first place of a list where the key is taken or equals an earlier one. -/
def FirstRepeat (taken keys : List String) (key : String) : Prop :=
  ∃ i, keys[i]? = some key ∧ (key ∈ taken ∨ key ∈ keys.take i) ∧
    ∀ j < i, ∀ earlier, keys[j]? = some earlier → earlier ∉ taken ∧ earlier ∉ keys.take j

namespace FirstRepeat

variable {taken keys : List String} {head key : String}

/-- There is no key in the empty list. -/
theorem not_nil : ¬ FirstRepeat taken [] key :=
  fun ⟨_, hhere, _⟩ => nomatch hhere

/-- A head that is taken is the first. -/
theorem cons_of_mem (h : head ∈ taken) : FirstRepeat taken (head :: keys) key ↔ key = head := by
  constructor
  · rintro ⟨i, hhere, -, hfirst⟩
    cases i with
    | zero => exact (Option.some.inj hhere).symm
    | succ i => exact absurd h (hfirst 0 (Nat.succ_pos i) head rfl).1
  · rintro rfl
    exact ⟨0, rfl, .inl h, nofun⟩

/-- A head that is not taken passes, and behind it the head is taken too. -/
theorem cons_of_not_mem (h : head ∉ taken) :
    FirstRepeat taken (head :: keys) key ↔ FirstRepeat (head :: taken) keys key := by
  have hmove (earlier : String) (j : Nat) :
      (earlier ∈ head :: taken ∨ earlier ∈ keys.take j) ↔
        (earlier ∈ taken ∨ earlier ∈ (head :: keys).take (j + 1)) := by
    rw [List.take_succ_cons, List.mem_cons, List.mem_cons]
    tauto
  simp only [FirstRepeat, ← not_or, hmove]
  constructor
  · rintro ⟨i, hhere, hrepeat, hfirst⟩
    cases i with
    | zero =>
      cases Option.some.inj hhere
      exact absurd hrepeat (not_or.2 ⟨h, List.not_mem_nil⟩)
    | succ i =>
      exact ⟨i, hhere, hrepeat, fun j hj => hfirst (j + 1) (Nat.succ_lt_succ hj)⟩
  · rintro ⟨i, hhere, hrepeat, hfirst⟩
    refine ⟨i + 1, hhere, hrepeat, fun j hj earlier hearlier => ?_⟩
    cases j with
    | zero =>
      cases Option.some.inj hearlier
      exact not_or.2 ⟨h, List.not_mem_nil⟩
    | succ j => exact hfirst j (Nat.lt_of_succ_lt_succ hj) earlier hearlier

/-- There is no such key exactly if the keys are distinct and none is taken. -/
theorem forall_not_iff :
    (∀ key, ¬ FirstRepeat taken keys key) ↔ keys.Nodup ∧ ∀ key ∈ keys, key ∉ taken := by
  induction keys generalizing taken with
  | nil => exact ⟨fun _ => ⟨.nil, nofun⟩, fun _ _ => not_nil⟩
  | cons head keys ih =>
    rw [List.nodup_cons, List.forall_mem_cons]
    by_cases hhead : head ∈ taken
    · simp [cons_of_mem hhead, hhead]
    · simp only [cons_of_not_mem hhead, ih, List.mem_cons, not_or]
      constructor
      · rintro ⟨hnodup, hkeys⟩
        exact ⟨⟨fun hmem => (hkeys head hmem).1 rfl, hnodup⟩, hhead,
          fun key hkey => (hkeys key hkey).2⟩
      · rintro ⟨⟨hnot, hnodup⟩, -, hkeys⟩
        exact ⟨hnodup, fun key hkey => ⟨ne_of_mem_of_not_mem hkey hnot, hkeys key hkey⟩⟩

/-- Distinct keys are keys of which none is repeated. -/
theorem nodup_iff : keys.Nodup ↔ ∀ key, ¬ FirstRepeat [] keys key := by
  rw [forall_not_iff]
  exact (and_iff_left fun _ _ => List.not_mem_nil).symm

end FirstRepeat

/-! ## The passes over the lists -/

namespace Footprint

open Std (HashSet)

section
variable {taken keys : List String} {seen written : HashSet String} {conflict : FootprintConflict}

/-- A set of the taken keys, with one key more on both sides. -/
theorem mem_insert_iff (hseen : ∀ key, key ∈ seen ↔ key ∈ taken) (head : String) :
    ∀ key, key ∈ seen.insert head ↔ key ∈ head :: taken := by
  intro key
  rw [HashSet.mem_insert, beq_iff_eq, List.mem_cons, hseen, eq_comm]

/-- The pass over the read-write keys fails with the first key that is repeated. -/
theorem collectWritten_eq_error_iff (hseen : ∀ key, key ∈ seen ↔ key ∈ taken) :
    collectWritten keys seen = .error conflict ↔
      ∃ key, FirstRepeat taken keys key ∧ conflict = .duplicateReadWrite key := by
  induction keys generalizing seen taken with
  | nil => exact ⟨nofun, fun ⟨_, hfirst, _⟩ => (FirstRepeat.not_nil hfirst).elim⟩
  | cons head keys ih =>
    unfold collectWritten
    by_cases hhead : head ∈ taken
    · rw [if_pos (HashSet.mem_iff_contains.1 ((hseen head).2 hhead))]
      simp [FirstRepeat.cons_of_mem hhead, eq_comm]
    · rw [if_neg fun h => hhead ((hseen head).1 (HashSet.mem_iff_contains.2 h)),
        ih (mem_insert_iff hseen head)]
      simp only [FirstRepeat.cons_of_not_mem hhead]

/-- Without a failure the pass adds the keys to the set. -/
theorem mem_of_collectWritten_eq_ok (h : collectWritten keys seen = .ok written) {key : String} :
    key ∈ written ↔ key ∈ seen ∨ key ∈ keys := by
  induction keys generalizing seen with
  | nil =>
    cases h
    exact (or_iff_left List.not_mem_nil).symm
  | cons head keys ih =>
    unfold collectWritten at h
    split_ifs at h
    rw [ih h, HashSet.mem_insert, beq_iff_eq, List.mem_cons]
    tauto

/-- The pass over the read-only keys stops at the first key that is written or repeated. -/
theorem readConflict?_eq_some_iff
    (htaken : ∀ key, key ∈ taken ↔ key ∈ written ∨ key ∈ seen) :
    readConflict? written keys seen = some conflict ↔
      ∃ key, FirstRepeat taken keys key ∧
        conflict = if key ∈ written then .overlap key else .duplicateReadOnly key := by
  induction keys generalizing seen taken with
  | nil => exact ⟨nofun, fun ⟨_, hfirst, _⟩ => (FirstRepeat.not_nil hfirst).elim⟩
  | cons head keys ih =>
    have hmore : ∀ key, key ∈ head :: taken ↔ key ∈ written ∨ key ∈ seen.insert head := by
      intro key
      rw [List.mem_cons, htaken, HashSet.mem_insert, beq_iff_eq]
      tauto
    have hhead := htaken head
    unfold readConflict?
    simp only [← HashSet.mem_iff_contains]
    split_ifs with hwritten hseen
    · simp [FirstRepeat.cons_of_mem (hhead.2 (.inl hwritten)), hwritten, eq_comm]
    · simp [FirstRepeat.cons_of_mem (hhead.2 (.inr hseen)), hwritten, eq_comm]
    · have hnot : head ∉ taken := fun h => (hhead.1 h).elim hwritten hseen
      simp only [FirstRepeat.cons_of_not_mem hnot, ih hmore]

end

/-! ## Conflicts -/

/-- All keys of a footprint. -/
def keys (footprint : Footprint) : List String :=
  footprint.readOnly ++ footprint.readWrite

/-- Which conflict a footprint has. A repeated read-write key comes before every read-only key; of
the read-only keys it is the first that is written or repeated. -/
inductive FirstConflict (footprint : Footprint) : FootprintConflict → Prop
  | duplicateReadWrite {key : String} : FirstRepeat [] footprint.readWrite key →
      FirstConflict footprint (.duplicateReadWrite key)
  | overlap {key : String} : footprint.readWrite.Nodup →
      FirstRepeat footprint.readWrite footprint.readOnly key → key ∈ footprint.readWrite →
      FirstConflict footprint (.overlap key)
  | duplicateReadOnly {key : String} : footprint.readWrite.Nodup →
      FirstRepeat footprint.readWrite footprint.readOnly key → key ∉ footprint.readWrite →
      FirstConflict footprint (.duplicateReadOnly key)

variable {footprint : Footprint}

/-- The two passes find the first conflict. -/
theorem conflict?_eq_some_iff {conflict : FootprintConflict} :
    footprint.conflict? = some conflict ↔ footprint.FirstConflict conflict := by
  have hnothing (key : String) : key ∈ (∅ : HashSet String) ↔ key ∈ [] := by simp
  unfold conflict?
  cases hcollect : collectWritten footprint.readWrite ∅ with
  | error found =>
    obtain ⟨key, hfirst, rfl⟩ := (collectWritten_eq_error_iff hnothing).1 hcollect
    have hrepeated : ¬ footprint.readWrite.Nodup := fun h => FirstRepeat.nodup_iff.1 h key hfirst
    constructor
    · rintro ⟨⟩
      exact .duplicateReadWrite hfirst
    · intro h
      cases h with
      | duplicateReadWrite hother =>
        have hagain := (collectWritten_eq_error_iff hnothing).2 ⟨_, hother, rfl⟩
        rw [hcollect] at hagain
        exact congrArg some (Except.error.inj hagain)
      | overlap hnodup | duplicateReadOnly hnodup => exact absurd hnodup hrepeated
  | ok written =>
    have hmem (key : String) : key ∈ written ↔ key ∈ footprint.readWrite := by
      rw [mem_of_collectWritten_eq_ok hcollect]
      simp
    have hnodup : footprint.readWrite.Nodup := by
      refine FirstRepeat.nodup_iff.2 fun key hfirst => ?_
      have hfail := (collectWritten_eq_error_iff hnothing).2 ⟨key, hfirst, rfl⟩
      rw [hcollect] at hfail
      cases hfail
    have htaken (key : String) :
        key ∈ footprint.readWrite ↔ key ∈ written ∨ key ∈ (∅ : HashSet String) := by
      simp [hmem]
    show readConflict? written footprint.readOnly ∅ = _ ↔ _
    simp only [readConflict?_eq_some_iff htaken, hmem]
    constructor
    · rintro ⟨key, hfirst, rfl⟩
      split_ifs with hkey
      · exact .overlap hnodup hfirst hkey
      · exact .duplicateReadOnly hnodup hfirst hkey
    · intro h
      cases h with
      | duplicateReadWrite hfirst => exact absurd hfirst (FirstRepeat.nodup_iff.1 hnodup _)
      | overlap _ hfirst hkey => exact ⟨_, hfirst, (if_pos hkey).symm⟩
      | duplicateReadOnly _ hfirst hkey => exact ⟨_, hfirst, (if_neg hkey).symm⟩

/-- A footprint has a conflict unless all its keys are distinct. -/
theorem conflict?_eq_none_iff : footprint.conflict? = none ↔ footprint.keys.Nodup := by
  have hnone : footprint.conflict? = none ↔ ∀ conflict, ¬ footprint.FirstConflict conflict := by
    simp only [Option.eq_none_iff_forall_ne_some, ne_eq, conflict?_eq_some_iff]
  have hkeys : footprint.keys.Nodup ↔ footprint.readWrite.Nodup ∧ footprint.readOnly.Nodup ∧
      ∀ key ∈ footprint.readOnly, key ∉ footprint.readWrite := by
    unfold keys
    rw [List.nodup_append']
    exact and_left_comm
  rw [hnone, hkeys, ← FirstRepeat.forall_not_iff]
  constructor
  · intro h
    have hnodup := FirstRepeat.nodup_iff.2 fun key hfirst => h _ (.duplicateReadWrite hfirst)
    refine ⟨hnodup, fun key hfirst => ?_⟩
    by_cases hkey : key ∈ footprint.readWrite
    · exact h _ (.overlap hnodup hfirst hkey)
    · exact h _ (.duplicateReadOnly hnodup hfirst hkey)
  · rintro ⟨hnodup, hreadOnly⟩ conflict hconflict
    cases hconflict with
    | duplicateReadWrite hfirst => exact FirstRepeat.nodup_iff.1 hnodup _ hfirst
    | overlap _ hfirst | duplicateReadOnly _ hfirst => exact hreadOnly _ hfirst

/-- Moving keys to other places, or to the other list, makes no conflict and removes none. -/
theorem isSome_conflict?_of_perm {other : Footprint} (h : other.keys.Perm footprint.keys) :
    other.conflict?.isSome = footprint.conflict?.isSome := by
  have hnone : other.conflict? = none ↔ footprint.conflict? = none := by
    rw [conflict?_eq_none_iff, conflict?_eq_none_iff, h.nodup_iff]
  rw [Bool.eq_iff_iff, ← Option.ne_none_iff_isSome, ← Option.ne_none_iff_isSome]
  exact not_congr hnone

end Footprint

/-! ## The charge for entries -/

section
variable {α : Type} [Arithmetic α] {sim : Simulation} {snapshot : Snapshot α} {cost : LedgerCost α}

/-- Only a footprint without conflict has a ledger cost, which is then the computed one. -/
theorem LedgerCost.conflict?_of_eq_ok (h : LedgerCost.of sim snapshot = .ok cost) :
    sim.resources.footprint.conflict? = none ∧ cost = compute sim snapshot := by
  unfold LedgerCost.of at h
  split at h
  · cases h
  · split at h
    · cases h
    · next hnone => exact ⟨hnone, (Except.ok.inj h).symm⟩

/-- Read and written entries together are all keys. -/
theorem LedgerDimension.billedUnits_entries (sim : Simulation) :
    billedUnits sim .readEntries + billedUnits sim .writeEntries =
      sim.resources.footprint.keys.length :=
  List.length_append.symm

end

/-- A footprint has no conflict exactly if all its keys are distinct. Otherwise its conflict is the
one of the first repeated read-write key, or else of the first read-only key that is written or
repeated. The order of the keys and the list in which each stands do not matter for whether there
is one. And where a ledger cost is computed, the entries that it charges for are the distinct keys,
each of them once. -/
theorem Footprint.conflict?_is_first (footprint : Footprint) :
    (footprint.conflict? = none ↔ footprint.keys.Nodup) ∧
    (∀ conflict, footprint.conflict? = some conflict ↔ footprint.FirstConflict conflict) ∧
    (∀ other : Footprint, other.keys.Perm footprint.keys →
      other.conflict?.isSome = footprint.conflict?.isSome) ∧
    (∀ (sim : Simulation) (snapshot : Snapshot Float) (cost : LedgerCost Float),
      sim.resources.footprint = footprint → LedgerCost.of sim snapshot = .ok cost →
      (∀ d : LedgerDimension,
        cost.feeBreakdown.get d = ofCount (d.billedUnits sim) * d.rate snapshot.fees) ∧
      LedgerDimension.billedUnits sim .readEntries + LedgerDimension.billedUnits sim .writeEntries =
        footprint.keys.toFinset.card ∧
      ∀ key ∈ footprint.keys,
        footprint.readOnly.count key + footprint.readWrite.count key = 1) := by
  refine ⟨conflict?_eq_none_iff, fun _ => conflict?_eq_some_iff,
    fun _ => isSome_conflict?_of_perm, ?_⟩
  rintro sim snapshot cost rfl hcost
  obtain ⟨hnone, rfl⟩ := LedgerCost.conflict?_of_eq_ok hcost
  have hnodup := conflict?_eq_none_iff.1 hnone
  refine ⟨fun d => LedgerVector.get_ofFn _ d, ?_, fun key hkey => ?_⟩
  · rw [LedgerDimension.billedUnits_entries, List.toFinset_card_of_nodup hnodup]
  · rw [← List.count_append]
    exact List.count_eq_one_of_mem hnodup hkey

/-- Of conflicts of all three kinds the first repeated read-write key counts, and there is still one
with the lists exchanged. Three distinct keys are three entries of the charge. -/
theorem Footprint.conflict?_is_first_of_all_kinds :
    let crowded : Footprint := ⟨["a", "a", "w"], ["w", "v", "v", "w"]⟩
    let sim : Simulation := { Simulation.zero with
      resources := ⟨⟨["a", "b"], ["w"]⟩, 0, 0, 0⟩ }
    crowded.conflict? = some (.duplicateReadWrite "v") ∧
      (⟨crowded.readWrite, crowded.readOnly⟩ : Footprint).conflict?.isSome = true ∧
      ∃ cost, LedgerCost.of sim Snapshot.mainnet = .ok cost ∧
        LedgerDimension.billedUnits sim .readEntries +
          LedgerDimension.billedUnits sim .writeEntries = 3 := by
  intro crowded sim
  obtain ⟨-, hconflict, hperm, -⟩ := conflict?_is_first crowded
  obtain ⟨hnone, -, -, hcharge⟩ := conflict?_is_first sim.resources.footprint
  have hcrowded : crowded.conflict? = some (.duplicateReadWrite "v") := by
    refine (hconflict _).2 (.duplicateReadWrite ⟨2, rfl, .inr (by decide), ?_⟩)
    intro j hj earlier hearlier
    match j, hearlier with
    | 0, rfl => decide
    | 1, rfl => decide
  have hcost : LedgerCost.of sim Snapshot.mainnet =
      .ok (LedgerCost.compute sim Snapshot.mainnet) := by
    unfold LedgerCost.of
    rw [show LedgerCost.fault? Snapshot.mainnet = none from rfl, hnone.2 (by decide)]
  refine ⟨hcrowded, ?_, _, hcost, ?_⟩
  · rw [hperm _ List.perm_append_comm, hcrowded]
    rfl
  · exact (hcharge sim Snapshot.mainnet _ rfl hcost).2.1

end ResourceMeter
