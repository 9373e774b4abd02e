import Mathlib.Data.List.Infix
import Mathlib.Logic.Function.Basic
import ResourceMeter.Proofs.SnapshotValidity
import ResourceMeter.SnapshotSlot

/-!
# A slot shared by clients

Any number of clients hold the same `SnapshotSlot` and make calls on it. A call that reads the slot
is one move. A call that replaces the snapshot is two: the check of the new snapshot, which looks
at nothing shared, and the swap; moves of other clients may fall between them. A schedule says whose
turn it is, so `SharedSlot.run` over all schedules is every interleaving of the calls.

`SharedSlot.Moves` says what one move can do. `SharedSlot.Inv` is what every move keeps, and
`SharedSlot.run_history` states it of all runs: only valid snapshots are ever seen, a refused one
leaves no trace, every replacement gives what `SnapshotSlot.replace` gives at its swap, and the
snapshots that the replacements gave back, followed by the one in effect, are the first one followed
by those that were put in.
-/

namespace ResourceMeter

section
variable {α : Type} [Arithmetic α]

namespace SnapshotSlot

variable {slot : SnapshotSlot α} {snapshot : Snapshot α}

/-- A replacement succeeds exactly if the snapshot is valid, and then it is a swap. -/
theorem replace_eq_ok_iff {result : Snapshot α × SnapshotSlot α} :
    slot.replace snapshot = .ok result ↔
      snapshot.validate = .ok () ∧ slot.swap snapshot = result := by
  unfold replace
  cases snapshot.validate with
  | error fault => exact ⟨nofun, fun h => nomatch h.1⟩
  | ok _ => exact ⟨fun h => ⟨rfl, Except.ok.inj h⟩, fun h => congrArg _ h.2⟩

/-- A replacement is refused exactly if the snapshot is not valid, with the fault of the
snapshot. -/
theorem replace_eq_error_iff {fault : Fault α} :
    slot.replace snapshot = .error fault ↔ snapshot.validate = .error fault := by
  unfold replace
  cases snapshot.validate with
  | error found => simp [Except.map]
  | ok _ => exact ⟨nofun, nofun⟩

end SnapshotSlot

/-- A call on the slot. -/
inductive SlotCall (α : Type) [Arithmetic α] where
  | current
  | version
  | replace (snapshot : Snapshot α)

/-- The answer to a call, with what it is about. -/
inductive SlotAnswer (α : Type) [Arithmetic α] where
  | loaded (snapshot : Snapshot α)
  | tagged (version : String)
  | refused (snapshot : Snapshot α) (fault : Fault α)
  /-- The snapshot took the place of a previous one, which the caller gets. -/
  | replaced (snapshot previous : Snapshot α)

namespace SlotAnswer

/-- The call that is answered. -/
def call : SlotAnswer α → SlotCall α
  | .loaded _ => .current
  | .tagged _ => .version
  | .refused snapshot _ => .replace snapshot
  | .replaced snapshot _ => .replace snapshot

/-- The snapshot that the call put into the slot. -/
def installed? : SlotAnswer α → Option (Snapshot α)
  | .replaced snapshot _ => some snapshot
  | _ => none

/-- The snapshot that the call took out of the slot. -/
def previous? : SlotAnswer α → Option (Snapshot α)
  | .replaced _ previous => some previous
  | _ => none

/-- Snapshots in answers are valid, except for one that was refused, and that with the fault that
validation finds. -/
def Sound : SlotAnswer α → Prop
  | .loaded snapshot => snapshot.validate = .ok ()
  | .tagged _ => True
  | .refused snapshot fault => snapshot.validate = .error fault
  | .replaced snapshot previous => snapshot.validate = .ok () ∧ previous.validate = .ok ()

end SlotAnswer

/-- A client with the calls that it still has to make. Between the two moves of a replacement it
holds the snapshot that passed the check. -/
structure Client (α : Type) [Arithmetic α] where
  calls : List (SlotCall α)
  accepted : Option (Snapshot α)

/-- A slot with its clients, and the answers given so far, the oldest first. -/
structure SharedSlot (κ α : Type) [Arithmetic α] where
  slot : SnapshotSlot α
  clients : κ → Client α
  log : List (κ × SlotAnswer α)

namespace SharedSlot

/-- The snapshots put into the slot, in the order of the swaps. -/
def installed {κ : Type} (log : List (κ × SlotAnswer α)) : List (Snapshot α) :=
  log.filterMap fun entry => entry.2.installed?

/-- The snapshots that the replacements gave back, in the order of the swaps. -/
def previous {κ : Type} (log : List (κ × SlotAnswer α)) : List (Snapshot α) :=
  log.filterMap fun entry => entry.2.previous?

/-- The snapshot in effect after the answers of a log: the last one put in, or else the first. -/
def inEffect {κ : Type} (first : Snapshot α) (log : List (κ × SlotAnswer α)) : Snapshot α :=
  (installed log).getLast?.getD first

/-- The slot before any call, with the calls that each client is going to make. -/
def start {κ : Type} (slot : SnapshotSlot α) (calls : κ → List (SlotCall α)) : SharedSlot κ α :=
  ⟨slot, fun client => ⟨calls client, none⟩, []⟩

variable {κ : Type} [DecidableEq κ]

/-- A client gets its answer and goes on to the calls behind. -/
def answer (s : SharedSlot κ α) (c : κ) (calls : List (SlotCall α)) (a : SlotAnswer α) :
    SharedSlot κ α :=
  { s with clients := Function.update s.clients c ⟨calls, none⟩, log := s.log ++ [(c, a)] }

/-- A client holds a snapshot that passed the check. -/
def accept (s : SharedSlot κ α) (c : κ) (calls : List (SlotCall α)) (snapshot : Snapshot α) :
    SharedSlot κ α :=
  { s with clients := Function.update s.clients c ⟨calls, some snapshot⟩ }

/-- A client swaps the snapshot that it holds for the one in the slot. -/
def install (s : SharedSlot κ α) (c : κ) (snapshot : Snapshot α) : SharedSlot κ α :=
  let (previous, slot) := s.slot.swap snapshot
  { s.answer c (s.clients c).calls (.replaced snapshot previous) with slot }

/-- One move of a client. A client that has no call left does nothing. -/
def move (s : SharedSlot κ α) (c : κ) : SharedSlot κ α :=
  match (s.clients c).accepted, (s.clients c).calls with
  | some snapshot, _ => s.install c snapshot
  | none, [] => s
  | none, .current :: calls => s.answer c calls (.loaded s.slot.current)
  | none, .version :: calls => s.answer c calls (.tagged s.slot.version)
  | none, .replace snapshot :: calls =>
    match snapshot.validate with
    | .error fault => s.answer c calls (.refused snapshot fault)
    | .ok () => s.accept c calls snapshot

/-- The moves of a schedule, one after the other. -/
def run (s : SharedSlot κ α) (schedule : List κ) : SharedSlot κ α :=
  schedule.foldl move s

/-! ## What one move can do -/

/-- The states that one move of a client leads to, each with the reason for it. -/
inductive Moves (s : SharedSlot κ α) (c : κ) : SharedSlot κ α → Prop
  | idle : Moves s c s
  | loaded {calls} : s.clients c = ⟨.current :: calls, none⟩ →
      Moves s c (s.answer c calls (.loaded s.slot.current))
  | tagged {calls} : s.clients c = ⟨.version :: calls, none⟩ →
      Moves s c (s.answer c calls (.tagged s.slot.version))
  | refused {snapshot calls fault} : s.clients c = ⟨.replace snapshot :: calls, none⟩ →
      snapshot.validate = .error fault → Moves s c (s.answer c calls (.refused snapshot fault))
  | accepted {snapshot calls} : s.clients c = ⟨.replace snapshot :: calls, none⟩ →
      snapshot.validate = .ok () → Moves s c (s.accept c calls snapshot)
  | installed {snapshot calls} : s.clients c = ⟨calls, some snapshot⟩ →
      Moves s c (s.install c snapshot)

/-- A move does one of these things and nothing else. -/
theorem moves (s : SharedSlot κ α) (c : κ) : Moves s c (s.move c) := by
  unfold move
  rcases h : s.clients c with ⟨calls, _ | snapshot⟩
  · cases calls with
    | nil => exact .idle
    | cons call calls =>
      cases call with
      | current => exact .loaded h
      | version => exact .tagged h
      | replace snapshot =>
        dsimp only
        cases hv : snapshot.validate with
        | error fault => exact .refused h hv
        | ok _ => exact .accepted h hv
  · exact .installed h

/-- A snapshot that fails the check is answered with the fault of the check, and the slot stays as
it was. -/
theorem move_of_invalid {s : SharedSlot κ α} {c : κ} {snapshot : Snapshot α}
    {calls : List (SlotCall α)} {fault : Fault α}
    (hc : s.clients c = ⟨.replace snapshot :: calls, none⟩)
    (hv : snapshot.validate = .error fault) :
    s.move c = s.answer c calls (.refused snapshot fault) := by
  unfold move
  rw [hc]
  dsimp only
  rw [hv]

/-- A snapshot that passes the check is held until the next move of the client. -/
theorem move_of_valid {s : SharedSlot κ α} {c : κ} {snapshot : Snapshot α}
    {calls : List (SlotCall α)} (hc : s.clients c = ⟨.replace snapshot :: calls, none⟩)
    (hv : snapshot.validate = .ok ()) : s.move c = s.accept c calls snapshot := by
  unfold move
  rw [hc]
  dsimp only
  rw [hv]

/-- A snapshot that passed the check is swapped for the one in the slot. -/
theorem move_of_held {s : SharedSlot κ α} {c : κ} {snapshot : Snapshot α}
    {calls : List (SlotCall α)} (hc : s.clients c = ⟨calls, some snapshot⟩) :
    s.move c = s.install c snapshot := by
  unfold move
  rw [hc]

/-! ## Replacements as calls on the slot -/

/-- The swap of a valid snapshot gives what `SnapshotSlot.replace` gives on the slot as it is
then. -/
theorem install_eq_replace (s : SharedSlot κ α) (c : κ) {snapshot : Snapshot α}
    (hv : snapshot.validate = .ok ()) :
    ∃ before slot, s.slot.replace snapshot = .ok (before, slot) ∧
      (s.install c snapshot).slot = slot ∧
      (s.install c snapshot).log = s.log ++ [(c, .replaced snapshot before)] :=
  ⟨_, _, SnapshotSlot.replace_eq_ok_iff.2 ⟨hv, rfl⟩, rfl, rfl⟩

section
variable {s : SharedSlot κ α} {c : κ} {snapshot : Snapshot α} {calls : List (SlotCall α)}

/-- The two moves of a replacement that no other move falls into give what `SnapshotSlot.replace`
gives. -/
theorem run_replace {before : Snapshot α} {slot : SnapshotSlot α}
    (hc : s.clients c = ⟨.replace snapshot :: calls, none⟩)
    (hr : s.slot.replace snapshot = .ok (before, slot)) :
    (s.run [c, c]).slot = slot ∧
      (s.run [c, c]).log = s.log ++ [(c, .replaced snapshot before)] := by
  obtain ⟨hv, hswap⟩ := SnapshotSlot.replace_eq_ok_iff.1 hr
  have hheld : (s.accept c calls snapshot).clients c = ⟨calls, some snapshot⟩ :=
    Function.update_self ..
  cases hswap
  simp only [run, List.foldl_cons, List.foldl_nil, move_of_valid hc hv, move_of_held hheld]
  exact ⟨rfl, rfl⟩

/-- A replacement that `SnapshotSlot.replace` refuses takes one move, and is answered with the fault
that this gives. -/
theorem run_replace_refused {fault : Fault α}
    (hc : s.clients c = ⟨.replace snapshot :: calls, none⟩)
    (hr : s.slot.replace snapshot = .error fault) :
    (s.run [c]).slot = s.slot ∧ (s.run [c]).log = s.log ++ [(c, .refused snapshot fault)] := by
  have hv := SnapshotSlot.replace_eq_error_iff.1 hr
  simp only [run, List.foldl_cons, List.foldl_nil, move_of_invalid hc hv]
  exact ⟨rfl, rfl⟩

end

/-! ## What every move keeps -/

/-- The calls of a client that a log answers. -/
def answered (c : κ) (log : List (κ × SlotAnswer α)) : List (SlotCall α) :=
  log.filterMap fun entry => if entry.1 = c then some entry.2.call else none

/-- What holds of a shared slot that started with a valid snapshot, whatever moves were made. -/
structure Inv (first : Snapshot α) (calls : κ → List (SlotCall α)) (s : SharedSlot κ α) :
    Prop where
  valid : s.slot.current.validate = .ok ()
  accepted : ∀ c snapshot, (s.clients c).accepted = some snapshot → snapshot.validate = .ok ()
  sound : ∀ entry ∈ s.log, entry.2.Sound
  /-- Nothing that was put in is lost, and nothing is given back twice. -/
  chain : previous s.log ++ [s.slot.current] = first :: installed s.log
  /-- What was loaded is what was in effect at that place of the log. -/
  loads : ∀ before c snapshot, before ++ [(c, .loaded snapshot)] <+: s.log →
    snapshot = inEffect first before
  /-- Every call of a client is answered once and in its turn. -/
  transcript : ∀ c, answered c s.log ++ (s.clients c).accepted.toList.map .replace ++
    (s.clients c).calls = calls c

/-- The snapshot in the slot is the one in effect after the log. -/
theorem Inv.current_eq {first : Snapshot α} {calls : κ → List (SlotCall α)} {s : SharedSlot κ α}
    (h : Inv first calls s) : s.slot.current = inEffect first s.log := by
  have hlast := congrArg List.getLast? h.chain
  rw [List.getLast?_concat, List.getLast?_cons] at hlast
  exact Option.some.inj hlast

/-- A fresh slot keeps everything. -/
theorem Inv.start {slot : SnapshotSlot α} (h : slot.current.validate = .ok ())
    (calls : κ → List (SlotCall α)) : Inv slot.current calls (start slot calls) where
  valid := h
  accepted _ _ := nofun
  sound _ := nofun
  chain := rfl
  loads before c snapshot h := by
    have := List.prefix_nil.1 h
    simp at this
  transcript c := by
    simp [SharedSlot.start, answered]

/-- An answer that swaps nothing keeps everything. -/
theorem Inv.answer {first : Snapshot α} {calls : κ → List (SlotCall α)} {s : SharedSlot κ α}
    (h : Inv first calls s) {c : κ} {later : List (SlotCall α)} {a : SlotAnswer α}
    (hc : s.clients c = ⟨a.call :: later, none⟩) (hsound : a.Sound)
    (hinstalled : a.installed? = none) (hprevious : a.previous? = none)
    (hload : ∀ snapshot, a = .loaded snapshot → snapshot = s.slot.current) :
    Inv first calls (s.answer c later a) where
  valid := h.valid
  accepted d snapshot hd := by
    by_cases hdc : d = c
    · subst hdc
      simp [SharedSlot.answer] at hd
    · exact h.accepted d snapshot (by simpa [SharedSlot.answer, hdc] using hd)
  sound entry he := by
    rcases List.mem_append.1 he with he | he
    · exact h.sound entry he
    · rw [List.mem_singleton.1 he]
      exact hsound
  chain := by
    simpa [SharedSlot.answer, previous, installed, hprevious, hinstalled] using h.chain
  loads before d snapshot hp := by
    rcases List.prefix_concat_iff.1 hp with heq | hp
    · obtain ⟨rfl, hlast⟩ := List.append_inj' heq rfl
      have ha : (d, SlotAnswer.loaded snapshot) = (c, a) := List.singleton_inj.1 hlast
      rw [hload snapshot (Prod.ext_iff.1 ha).2.symm, h.current_eq]
    · exact h.loads before d snapshot hp
  transcript d := by
    rw [← h.transcript d]
    by_cases hdc : d = c
    · subst hdc
      simp [SharedSlot.answer, answered, hc]
    · simp [SharedSlot.answer, answered, hdc, Ne.symm hdc]

/-- A snapshot that passed the check is held, and nothing else changes. -/
theorem Inv.accept {first : Snapshot α} {calls : κ → List (SlotCall α)} {s : SharedSlot κ α}
    (h : Inv first calls s) {c : κ} {later : List (SlotCall α)} {snapshot : Snapshot α}
    (hc : s.clients c = ⟨.replace snapshot :: later, none⟩) (hv : snapshot.validate = .ok ()) :
    Inv first calls (s.accept c later snapshot) where
  valid := h.valid
  accepted d held hd := by
    by_cases hdc : d = c
    · subst hdc
      have : snapshot = held := by simpa [SharedSlot.accept] using hd
      rw [← this, hv]
    · exact h.accepted d held (by simpa [SharedSlot.accept, hdc] using hd)
  sound := h.sound
  chain := h.chain
  loads := h.loads
  transcript d := by
    rw [← h.transcript d]
    by_cases hdc : d = c
    · subst hdc
      simp [SharedSlot.accept, hc]
    · simp [SharedSlot.accept, hdc]

/-- The swap moves the chain on by one: what it gives back was last in the chain, and what it puts
in is last from now on. -/
theorem Inv.install {first : Snapshot α} {calls : κ → List (SlotCall α)} {s : SharedSlot κ α}
    (h : Inv first calls s) {c : κ} {later : List (SlotCall α)} {snapshot : Snapshot α}
    (hc : s.clients c = ⟨later, some snapshot⟩) : Inv first calls (s.install c snapshot) where
  valid := h.accepted c snapshot (by rw [hc])
  accepted d held hd := by
    by_cases hdc : d = c
    · subst hdc
      simp [SharedSlot.install, SharedSlot.answer] at hd
    · exact h.accepted d held (by simpa [SharedSlot.install, SharedSlot.answer, hdc] using hd)
  sound entry he := by
    rcases List.mem_append.1 he with he | he
    · exact h.sound entry he
    · rw [List.mem_singleton.1 he]
      exact ⟨h.accepted c snapshot (by rw [hc]), h.valid⟩
  chain := by
    have hprevious : previous (s.install c snapshot).log = previous s.log ++ [s.slot.current] := by
      simp [SharedSlot.install, SharedSlot.answer, previous, SlotAnswer.previous?,
        SnapshotSlot.swap]
    have hinstalled : installed (s.install c snapshot).log = installed s.log ++ [snapshot] := by
      simp [SharedSlot.install, SharedSlot.answer, installed, SlotAnswer.installed?]
    rw [hprevious, hinstalled, h.chain]
    rfl
  loads before d held hp := by
    rcases List.prefix_concat_iff.1 hp with heq | hp
    · cases (Prod.ext_iff.1 (List.singleton_inj.1 (List.append_inj' heq rfl).2)).2
    · exact h.loads before d held hp
  transcript d := by
    rw [← h.transcript d]
    by_cases hdc : d = c
    · subst hdc
      simp [SharedSlot.install, SharedSlot.answer, answered, SlotAnswer.call, hc]
    · simp [SharedSlot.install, SharedSlot.answer, answered, hdc, Ne.symm hdc]

/-- Every move keeps the invariant. -/
theorem Inv.moves {first : Snapshot α} {calls : κ → List (SlotCall α)} {s t : SharedSlot κ α}
    (h : Inv first calls s) {c : κ} (hm : Moves s c t) : Inv first calls t := by
  cases hm with
  | idle => exact h
  | loaded hc =>
    exact h.answer hc h.valid rfl rfl fun _ ha => (SlotAnswer.loaded.inj ha).symm
  | tagged hc => exact h.answer hc trivial rfl rfl nofun
  | refused hc hv => exact h.answer hc hv rfl rfl nofun
  | accepted hc hv => exact h.accept hc hv
  | installed hc => exact h.install hc

/-- Every run keeps the invariant. -/
theorem Inv.run {first : Snapshot α} {calls : κ → List (SlotCall α)} {s : SharedSlot κ α}
    (h : Inv first calls s) (schedule : List κ) : Inv first calls (s.run schedule) := by
  induction schedule generalizing s with
  | nil => exact h
  | cons c schedule ih => exact ih (h.moves (s.moves c))

/-- A move adds to the log and takes nothing away. -/
theorem Moves.extends_log {s t : SharedSlot κ α} {c : κ} (hm : Moves s c t) : s.log <+: t.log := by
  cases hm with
  | idle | accepted => exact List.prefix_rfl
  | loaded | tagged | refused | installed => exact List.prefix_append ..

/-- A run adds to the log and takes nothing away. -/
theorem run_extends_log (s : SharedSlot κ α) (schedule : List κ) :
    s.log <+: (s.run schedule).log := by
  induction schedule generalizing s with
  | nil => exact List.prefix_rfl
  | cons c schedule ih => exact (s.moves c).extends_log.trans (ih _)

end SharedSlot

end

/-! ## Slots as they are built -/

namespace SnapshotSlot

/-- The slots that a program can begin with. -/
inductive Built : SnapshotSlot Float → Prop
  | of {snapshot : Snapshot Float} {slot : SnapshotSlot Float} :
      SnapshotSlot.of snapshot = .ok slot → Built slot
  | standard : Built .standard

/-- A slot begins with a valid snapshot. -/
theorem Built.valid {slot : SnapshotSlot Float} (h : slot.Built) :
    slot.current.validate = .ok () := by
  cases h with
  | standard => exact Snapshot.validate_mainnet
  | @of snapshot _ h =>
    unfold SnapshotSlot.of at h
    cases hv : snapshot.validate with
    | error fault => rw [hv] at h; cases h
    | ok _ => rw [hv] at h; cases h; exact hv

end SnapshotSlot

namespace SharedSlot

variable {κ : Type} [DecidableEq κ]

/-- The history of a shared slot that began with the snapshot `first`, up to the state `s`. -/
structure History (first : Snapshot Float) (calls : κ → List (SlotCall Float))
    (s : SharedSlot κ Float) : Prop where
  /-- Every snapshot that was ever loaded is valid. -/
  loaded_valid : ∀ c snapshot, (c, .loaded snapshot) ∈ s.log → snapshot.validate = .ok ()
  /-- A replacement by an invalid snapshot is answered with the fault that validation finds, and
  leaves the slot as it was. -/
  refused : ∀ c snapshot later fault, s.clients c = ⟨.replace snapshot :: later, none⟩ →
    snapshot.validate = .error fault →
    (s.move c).slot = s.slot ∧ (s.move c).log = s.log ++ [(c, .refused snapshot fault)]
  /-- A replacement that no other move falls into gives what `SnapshotSlot.replace` gives. -/
  replaced_alone : ∀ c snapshot later before slot,
    s.clients c = ⟨.replace snapshot :: later, none⟩ →
    s.slot.replace snapshot = .ok (before, slot) →
    (s.run [c, c]).slot = slot ∧ (s.run [c, c]).log = s.log ++ [(c, .replaced snapshot before)]
  /-- A replacement that `SnapshotSlot.replace` refuses is answered with the fault that this
  gives. -/
  refused_alone : ∀ c snapshot later fault, s.clients c = ⟨.replace snapshot :: later, none⟩ →
    s.slot.replace snapshot = .error fault →
    (s.run [c]).slot = s.slot ∧ (s.run [c]).log = s.log ++ [(c, .refused snapshot fault)]
  /-- Whatever moves fall into a replacement, its swap gives what `SnapshotSlot.replace` gives on
  the slot as it is then. -/
  swapped : ∀ c snapshot later, s.clients c = ⟨later, some snapshot⟩ → ∃ before slot,
    s.slot.replace snapshot = .ok (before, slot) ∧ (s.move c).slot = slot ∧
      (s.move c).log = s.log ++ [(c, .replaced snapshot before)]
  /-- A snapshot that was read from a text is not refused. -/
  text_not_refused : ∀ text snapshot c fault, Snapshot.ofText text = .ok snapshot →
    (c, .refused snapshot fault) ∉ s.log
  /-- What the replacements gave back, followed by what is in the slot, is the first snapshot
  followed by what was put in. -/
  chain : previous s.log ++ [s.slot.current] = first :: installed s.log
  /-- Only valid snapshots were put in. -/
  installed_valid : ∀ snapshot ∈ installed s.log, snapshot.validate = .ok ()
  /-- Every call of a client is answered once and in its turn. -/
  transcript : ∀ c, answered c s.log ++ (s.clients c).accepted.toList.map .replace ++
    (s.clients c).calls = calls c
  /-- What was loaded is the snapshot that was in effect then. -/
  loaded_in_effect : ∀ before c snapshot, before ++ [(c, .loaded snapshot)] <+: s.log →
    snapshot = inEffect first before
  /-- Whatever happens later, nothing that a client got before changes. -/
  kept : ∀ later, s.log <+: (s.run later).log

/-- Every run of any number of clients on a slot, whatever calls they make and in whatever order
their moves fall, has such a history. -/
theorem run_history {slot : SnapshotSlot Float} (hslot : slot.Built)
    (calls : κ → List (SlotCall Float)) (schedule : List κ) :
    History slot.current calls ((start slot calls).run schedule) := by
  have h : Inv slot.current calls ((start slot calls).run schedule) :=
    (Inv.start hslot.valid calls).run schedule
  refine ⟨fun c snapshot hmem => h.sound _ hmem, fun c snapshot later fault hc hv => ?_,
    fun _ _ _ _ _ => run_replace, fun _ _ _ _ => run_replace_refused,
    fun c snapshot later hc => ?_, fun text snapshot c fault htext hmem => ?_, h.chain,
    fun snapshot hmem => ?_, h.transcript, h.loads, fun later => run_extends_log _ later⟩
  · rw [move_of_invalid hc hv]
    exact ⟨rfl, rfl⟩
  · rw [move_of_held hc]
    exact install_eq_replace _ c (h.accepted c snapshot (by rw [hc]))
  · have hrefused : snapshot.validate = .error fault := h.sound _ hmem
    rw [Snapshot.validate_of_ofText htext] at hrefused
    cases hrefused
  · obtain ⟨⟨c, a⟩, hmem, ha⟩ := List.mem_filterMap.1 hmem
    have hsound := h.sound _ hmem
    cases a with
    | replaced new old => cases ha; exact hsound.1
    | loaded | tagged | refused => cases ha

/-- Two clients whose replacements overlap: one check falls between the check and the swap of the
other, and a snapshot with a blank version tag is refused in between. -/
theorem run_history_of_two_clients :
    let next : Snapshot Float := { Snapshot.mainnet with version := "next" }
    let untagged : Snapshot Float := { Snapshot.mainnet with version := " " }
    let calls : Bool → List (SlotCall Float) := fun c =>
      if c then [.replace next, .current] else [.replace untagged, .replace .mainnet]
    let s := (start .standard calls).run [true, false, false, true, true, false]
    SnapshotSlot.standard.Built ∧ previous s.log = [.mainnet, next] ∧
      installed s.log = [next, .mainnet] ∧ History Snapshot.mainnet calls s :=
  ⟨.standard, rfl, rfl, run_history .standard _ _⟩

end SharedSlot

end ResourceMeter
