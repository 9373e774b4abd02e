import Mathlib.Order.WithBot
import ResourceMeter.Proofs.Binary64Operations

/-!
# The order of all binary64 numbers

`Binary64.extended` gives every number but NaN its place on the rational line with an infinity at
either end. The comparisons of numbers are those of their places, and NaN compares with nothing
(`Binary64.lt_iff_extended`, `Binary64.le_iff_extended`), so the laws of a linear order hold as far
as they make no use of every two numbers being comparable.
-/

namespace ResourceMeter.Binary64

open Float.Model Float.Model.UnpackedFloat

/-- The rational line with an infinity at either end. -/
abbrev Line : Type :=
  WithBot (WithTop ℚ)

/-- The place of a number on the line. NaN has none. -/
def extended (x : Float) : Option Line :=
  match x.toModel.unpack with
  | .notANumber => none
  | .infinity .positive => some ⊤
  | .infinity .negative => some ⊥
  | .zero _ => some ((toRat x : WithTop ℚ) : Line)
  | .finite _ _ _ _ => some ((toRat x : WithTop ℚ) : Line)

/-- What a number is, with its place. -/
inductive Placed (x : Float) : Option Line → Prop
  | notANumber : x.toModel.unpack = .notANumber → Placed x none
  | top : x.toModel.unpack = .infinity .positive → Placed x (some ⊤)
  | bottom : x.toModel.unpack = .infinity .negative → Placed x (some ⊥)
  | finite : x.isFinite = true → Placed x (some ((toRat x : WithTop ℚ) : Line))

/-- Every number is NaN, an infinity or finite, and has its place by that. -/
theorem placed (x : Float) : Placed x (extended x) := by
  unfold extended
  split
  · next h => exact .notANumber h
  · next h => exact .top h
  · next h => exact .bottom h
  · next h => exact .finite (isFinite_of_unpack_eq h)
  · next h => exact .finite (isFinite_of_unpack_eq h)

/-- Values stand on the line in their order. -/
theorem compare_line (a b : ℚ) :
    compare ((a : WithTop ℚ) : Line) ((b : WithTop ℚ) : Line) = compare a b := by
  have hlt {a b : ℚ} (h : a < b) : ((a : WithTop ℚ) : Line) < ((b : WithTop ℚ) : Line) :=
    WithBot.coe_lt_coe.2 (WithTop.coe_lt_coe.2 h)
  rcases lt_trichotomy a b with h | rfl | h
  · rw [compare_lt_iff_lt.2 h, compare_lt_iff_lt.2 (hlt h)]
  · rw [compare_eq_iff_eq.2 rfl, compare_eq_iff_eq.2 rfl]
  · rw [compare_gt_iff_gt.2 h, compare_gt_iff_gt.2 (hlt h)]

/-- The infinities stand at the ends. -/
theorem compare_ends (a : ℚ) :
    compare ((a : WithTop ℚ) : Line) ⊤ = .lt ∧ compare (⊤ : Line) ((a : WithTop ℚ) : Line) = .gt ∧
      compare (⊥ : Line) ((a : WithTop ℚ) : Line) = .lt ∧
      compare ((a : WithTop ℚ) : Line) ⊥ = .gt := by
  have htop : ((a : WithTop ℚ) : Line) < ⊤ := WithBot.coe_lt_coe.2 (WithTop.coe_lt_top a)
  have hbot : (⊥ : Line) < ((a : WithTop ℚ) : Line) := WithBot.bot_lt_coe _
  exact ⟨compare_lt_iff_lt.2 htop, compare_gt_iff_gt.2 htop, compare_lt_iff_lt.2 hbot,
    compare_gt_iff_gt.2 hbot⟩

/-- A finite number is below the positive infinity and above the negative one. -/
theorem compare_infinity {x : Float} (hx : x.isFinite = true) :
    x.toModel.unpack.compare (.infinity .positive) = some .lt ∧
      (UnpackedFloat.infinity .positive).compare x.toModel.unpack = some .gt ∧
      (UnpackedFloat.infinity .negative).compare x.toModel.unpack = some .lt ∧
      x.toModel.unpack.compare (.infinity .negative) = some .gt := by
  obtain ⟨_, hx⟩ | ⟨_, _, _, _, hx, -⟩ := unpack_of_isFinite hx <;> rw [hx] <;>
    exact ⟨rfl, rfl, rfl, rfl⟩

/-- Numbers are compared by their places. -/
theorem compare_eq_extended (x y : Float) :
    x.toModel.unpack.compare y.toModel.unpack = Option.map₂ compare (extended x) (extended y) := by
  have hx := placed x
  have hy := placed y
  generalize extended x = a at hx
  generalize extended y = b at hy
  cases hx with
  | notANumber hx => rw [hx]; rfl
  | top hx =>
    rw [hx]
    cases hy with
    | notANumber hy | top hy | bottom hy => rw [hy]; rfl
    | finite hy => exact (compare_infinity hy).2.1.trans (congrArg some (compare_ends _).2.1.symm)
  | bottom hx =>
    rw [hx]
    cases hy with
    | notANumber hy | top hy | bottom hy => rw [hy]; rfl
    | finite hy =>
      exact (compare_infinity hy).2.2.1.trans (congrArg some (compare_ends _).2.2.1.symm)
  | finite hx =>
    cases hy with
    | notANumber hy =>
      obtain ⟨_, hx⟩ | ⟨_, _, _, _, hx, -⟩ := unpack_of_isFinite hx <;> rw [hx, hy] <;> rfl
    | top hy =>
      rw [hy]
      exact (compare_infinity hx).1.trans (congrArg some (compare_ends _).1.symm)
    | bottom hy =>
      rw [hy]
      exact (compare_infinity hx).2.2.2.trans (congrArg some (compare_ends _).2.2.2.symm)
    | finite hy =>
      rw [compare_unpack hx hy]
      exact congrArg some (compare_line _ _).symm

/-- A number is below another one exactly if both have places and these are in that order. -/
theorem lt_iff_extended {x y : Float} :
    x < y ↔ ∃ a b, extended x = some a ∧ extended y = some b ∧ a < b := by
  rw [float_lt_iff]
  unfold UnpackedFloat.lt
  rw [compare_eq_extended, beq_iff_eq, Option.map₂_eq_some_iff]
  simp only [Option.mem_def, compare_lt_iff_lt]

/-- A number is at most another one exactly if both have places and these are in that order. -/
theorem le_iff_extended {x y : Float} :
    x ≤ y ↔ ∃ a b, extended x = some a ∧ extended y = some b ∧ a ≤ b := by
  rw [float_le_iff]
  unfold UnpackedFloat.le
  rw [compare_eq_extended]
  cases extended x <;> cases extended y <;> simp [Std.LawfulBCmp.isLE_iff_le]

/-- What is at most a number is below everything that this number is below. -/
theorem lt_of_le_of_lt {x y z : Float} (hxy : x ≤ y) (hyz : y < z) : x < z := by
  obtain ⟨a, b, hx, hy, hab⟩ := le_iff_extended.1 hxy
  obtain ⟨b', c, hy', hz, hbc⟩ := lt_iff_extended.1 hyz
  obtain rfl : b = b' := Option.some.inj (hy.symm.trans hy')
  exact lt_iff_extended.2 ⟨a, c, hx, hz, hab.trans_lt hbc⟩

/-- A number that is below another one is not at least it. -/
theorem not_le_of_lt {x y : Float} (h : x < y) : ¬ y ≤ x := by
  intro hle
  obtain ⟨a, b, hx, hy, hab⟩ := lt_iff_extended.1 h
  obtain ⟨b', a', hy', hx', hba⟩ := le_iff_extended.1 hle
  obtain rfl : a = a' := Option.some.inj (hx.symm.trans hx')
  obtain rfl : b = b' := Option.some.inj (hy.symm.trans hy')
  exact hab.not_ge hba

end ResourceMeter.Binary64
