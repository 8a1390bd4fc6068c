import Mathlib.Analysis.Real.Sqrt
import RagdollDynamics.Geometry.Vec3

/-!
# Exact arithmetic

The reals are a number system in which no operation rounds and every value is finite.  Over them
vectors form an additive group, so that facts about displacements are facts about groups, and the
comparison of vectors is equality.
-/

namespace RagdollDynamics

/-- Exact arithmetic. -/
noncomputable instance : Scalar ℝ where
  natCast := Nat.cast
  sqrt := Real.sqrt
  isFinite := fun _ => true
  decidableLT := inferInstance
  decidableLE := inferInstance

theorem Scalar.sqrt_real (x : ℝ) : Scalar.sqrt x = Real.sqrt x := rfl

theorem Scalar.abs_real (x : ℝ) : Scalar.abs x = |x| := by
  unfold Scalar.abs
  split
  next below => exact (abs_of_neg below).symm
  next above => exact (abs_of_nonneg (le_of_not_gt above)).symm

theorem Scalar.greatest_eq_zero {xs : List ℝ} (small : ∀ x ∈ xs, x ≤ 0) :
    Scalar.greatest xs = 0 := by
  unfold Scalar.greatest
  induction xs with
  | nil => rfl
  | cons x xs ih =>
    have first : Scalar.max 0 x = (0 : ℝ) := if_pos (small x (by simp))
    rw [List.foldl_cons, first]
    exact ih fun y mem => small y (by simp [mem])

theorem Scalar.max_real (x y : ℝ) : Scalar.max x y = x ⊔ y := by
  unfold Scalar.max
  split
  next le => exact (sup_eq_left.2 le).symm
  next lt =>
    rw [if_pos (beq_self_eq_true y)]
    exact (sup_eq_right.2 (le_of_not_ge lt)).symm

theorem Scalar.greatest_perm {xs ys : List ℝ} (order : xs.Perm ys) :
    Scalar.greatest ys = Scalar.greatest xs := by
  have hcomm : RightCommutative (Scalar.max : ℝ → ℝ → ℝ) :=
    ⟨fun x y z => by simp only [Scalar.max_real, sup_right_comm]⟩
  exact (order.foldl_eq 0).symm

namespace Vec3

/-! ### The operations, component by component -/

theorem zero_def : (0 : Vec3 ℝ) = ⟨0, 0, 0⟩ := rfl

theorem add_def (a b : Vec3 ℝ) : a + b = ⟨a.x + b.x, a.y + b.y, a.z + b.z⟩ := rfl

theorem sub_def (a b : Vec3 ℝ) : a - b = ⟨a.x - b.x, a.y - b.y, a.z - b.z⟩ := rfl

theorem neg_def (a : Vec3 ℝ) : -a = ⟨-a.x, -a.y, -a.z⟩ := rfl

theorem mul_def (a : Vec3 ℝ) (s : ℝ) : a * s = ⟨a.x * s, a.y * s, a.z * s⟩ := rfl

theorem div_def (a : Vec3 ℝ) (s : ℝ) : a / s = ⟨a.x / s, a.y / s, a.z / s⟩ := rfl

/-! ### Displacements as a group -/

/-- Displacements add up in any order and can be undone. -/
noncomputable instance : AddCommGroup (Vec3 ℝ) where
  add_assoc a b c := by simp only [add_def, add_assoc]
  zero_add a := by simp only [add_def, zero_def, zero_add]
  add_zero a := by simp only [add_def, zero_def, add_zero]
  neg_add_cancel a := by simp only [add_def, neg_def, zero_def, neg_add_cancel]
  add_comm a b := by simp only [add_def, add_comm]
  sub_eq_add_neg a b := by simp only [add_def, neg_def, sub_def, sub_eq_add_neg]
  nsmul := nsmulRec
  zsmul := zsmulRec

instance : LawfulBEq (Vec3 ℝ) where
  eq_of_beq {a b} same := by
    obtain ⟨⟨sameX, sameY⟩, sameZ⟩ :
        ((a.x == b.x) = true ∧ (a.y == b.y) = true) ∧ (a.z == b.z) = true := by
      simpa only [BEq.beq, Bool.and_eq_true] using same
    exact Vec3.ext (eq_of_beq sameX) (eq_of_beq sameY) (eq_of_beq sameZ)
  rfl {a} := by
    change (a.x == a.x && a.y == a.y && a.z == a.z) = true
    simp

@[simp] theorem zero_mul (s : ℝ) : (0 : Vec3 ℝ) * s = 0 := by simp [mul_def, zero_def]

theorem neg_mul (a : Vec3 ℝ) (s : ℝ) : -a * s = -(a * s) := by simp [mul_def, neg_def]

/-! ### Lengths and distances -/

theorem lengthSq_nonneg (a : Vec3 ℝ) : 0 ≤ a.lengthSq :=
  add_nonneg (add_nonneg (mul_self_nonneg a.x) (mul_self_nonneg a.y)) (mul_self_nonneg a.z)

theorem lengthSq_eq_zero_iff {a : Vec3 ℝ} : a.lengthSq = 0 ↔ a = 0 := by
  constructor
  · intro h
    have hx := mul_self_nonneg a.x
    have hy := mul_self_nonneg a.y
    have hz := mul_self_nonneg a.z
    have hsum : a.x * a.x + a.y * a.y + a.z * a.z = 0 := h
    refine Vec3.ext ?_ ?_ ?_ <;> refine mul_self_eq_zero.1 (le_antisymm ?_ ?_) <;> linarith
  · rintro rfl
    simp [lengthSq, dot, zero_def]

@[simp] theorem length_zero : (0 : Vec3 ℝ).length = 0 := by
  simp [length, lengthSq, dot, zero_def, Scalar.sqrt_real]

theorem length_pos {a : Vec3 ℝ} (h : a ≠ 0) : 0 < a.length := by
  have hne : a.lengthSq ≠ 0 := fun hzero => h (lengthSq_eq_zero_iff.1 hzero)
  exact Real.sqrt_pos.2 (lt_of_le_of_ne a.lengthSq_nonneg hne.symm)

theorem length_neg (a : Vec3 ℝ) : (-a).length = a.length := by
  simp [length, lengthSq, dot, neg_def]

theorem distance_comm (a b : Vec3 ℝ) : a.distance b = b.distance a := by
  rw [distance, distance, ← neg_sub, length_neg]

@[simp] theorem distance_self (a : Vec3 ℝ) : a.distance a = 0 := by simp [distance]

@[simp] theorem distance_add_right (a b v : Vec3 ℝ) : (a + v).distance (b + v) = a.distance b := by
  simp [distance]

/-! ### Directions -/

theorem directionOr_of_ne_zero {a : Vec3 ℝ} (h : a ≠ 0) (b : Vec3 ℝ) :
    a.directionOr b = a * (1 / a.length) := by
  have hpos : 0 < 1 / a.length := one_div_pos.2 (length_pos h)
  rw [directionOr, direction?, if_pos ⟨rfl, hpos⟩, Option.getD_some]

@[simp] theorem zero_directionOr (b : Vec3 ℝ) : (0 : Vec3 ℝ).directionOr b = b := by
  simp [directionOr, direction?]

end Vec3

end RagdollDynamics
