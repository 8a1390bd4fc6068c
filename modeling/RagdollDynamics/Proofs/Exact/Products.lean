import Mathlib.Tactic.Linarith
import Mathlib.Tactic.LinearCombination
import Mathlib.Tactic.Ring
import RagdollDynamics.Geometry.Rotation
import RagdollDynamics.Proofs.Exact.Real

/-!
# Products of vectors

The scalar product in exact arithmetic: it is bilinear, it is at most the product of the lengths of
its factors (`Vec3.dot_le_length_mul_length`), and a rotation of unit length keeps it
(`Rotation.IsUnit.dot_apply`).
-/

namespace RagdollDynamics

namespace Vec3

variable (a b p q : Vec3 ℝ) (k : ℝ)

/-! ### The scalar product -/

theorem dot_comm : p.dot q = q.dot p := by
  simp only [dot]
  ring

theorem add_dot : (a + b).dot p = a.dot p + b.dot p := by
  simp only [dot, add_def]
  ring

theorem sub_dot : (a - b).dot p = a.dot p - b.dot p := by
  simp only [dot, sub_def]
  ring

theorem neg_dot : (-a).dot p = -a.dot p := by
  simp only [dot, neg_def]
  ring

theorem mul_dot : (a * k).dot p = a.dot p * k := by
  simp only [dot, mul_def]
  ring

theorem dot_add : p.dot (a + b) = p.dot a + p.dot b := by
  rw [dot_comm, add_dot, dot_comm a, dot_comm b]

theorem dot_sub : p.dot (a - b) = p.dot a - p.dot b := by
  rw [dot_comm, sub_dot, dot_comm a, dot_comm b]

theorem dot_neg : p.dot (-a) = -p.dot a := by
  rw [dot_comm, neg_dot, dot_comm a]

theorem dot_mul : p.dot (a * k) = p.dot a * k := by
  rw [dot_comm, mul_dot, dot_comm a]

theorem dot_div : p.dot (a / k) = p.dot a / k := by
  simp only [dot, div_def]
  ring

@[simp] theorem zero_dot : (0 : Vec3 ℝ).dot p = 0 := by simp [dot, zero_def]

@[simp] theorem dot_zero : p.dot 0 = 0 := by simp [dot, zero_def]

theorem cross_dot_cross (p q r s : Vec3 ℝ) :
    (p.cross q).dot (r.cross s) = p.dot r * q.dot s - p.dot s * q.dot r := by
  simp only [cross, dot]
  ring

theorem mul_cross : (a * k).cross p = a.cross p * k := by
  refine Vec3.ext ?_ ?_ ?_ <;>
    · simp only [cross, mul_def]
      ring

theorem lengthSq_cross : (p.cross q).lengthSq = p.lengthSq * q.lengthSq - p.dot q * p.dot q := by
  rw [lengthSq, cross_dot_cross, dot_comm q p]
  rfl

/-! ### Lengths -/

theorem lengthSq_mul : (a * k).lengthSq = a.lengthSq * (k * k) := by
  simp only [lengthSq, mul_dot, dot_mul, mul_assoc]

theorem lengthSq_neg : (-a).lengthSq = a.lengthSq := by
  simp only [lengthSq, neg_dot, dot_neg, neg_neg]

/-- The law of cosines. -/
theorem lengthSq_add : (a + b).lengthSq = a.lengthSq + 2 * a.dot b + b.lengthSq := by
  simp only [lengthSq, add_dot, dot_add, dot_comm b a]
  ring

theorem length_nonneg : 0 ≤ a.length := Real.sqrt_nonneg _

theorem length_mul_self : a.length * a.length = a.lengthSq := Real.mul_self_sqrt a.lengthSq_nonneg

theorem length_mul : (a * k).length = a.length * |k| := by
  rw [length, lengthSq_mul, Scalar.sqrt_real, Real.sqrt_mul a.lengthSq_nonneg,
    Real.sqrt_mul_self_eq_abs]
  rfl

variable {a b p q k}

theorem length_le_length (h : p.lengthSq ≤ q.lengthSq) : p.length ≤ q.length :=
  Real.sqrt_le_sqrt h

theorem div_mul_cancel (a : Vec3 ℝ) (hk : k ≠ 0) : a / k * k = a := by
  simp only [div_def, mul_def, div_mul_cancel₀ _ hk]

theorem lengthSq_div_length (h : a ≠ 0) : (a / a.length).lengthSq = 1 := by
  have hpos := length_pos h
  rw [lengthSq, dot_div, dot_comm, dot_div, ← lengthSq, ← length_mul_self,
    mul_div_assoc, div_self hpos.ne', mul_one, div_self hpos.ne']

/-- A direction is a unit vector, if the one that stands in for it is. -/
theorem lengthSq_directionOr (hb : b.lengthSq = 1) (a : Vec3 ℝ) :
    (a.directionOr b).lengthSq = 1 := by
  by_cases ha : a = 0
  · rw [ha, zero_directionOr, hb]
  · rw [directionOr_of_ne_zero ha, lengthSq_mul, ← length_mul_self, mul_mul_mul_comm,
      mul_one_div_cancel (length_pos ha).ne', mul_one]

theorem length_eq_one_iff : a.length = 1 ↔ a.lengthSq = 1 := Real.sqrt_eq_one

theorem length_le_iff (hk : 0 ≤ k) : a.length ≤ k ↔ a.lengthSq ≤ k * k := by
  rw [length, Scalar.sqrt_real, Real.sqrt_le_left hk, sq]

theorem length_lt_iff (hk : 0 ≤ k) : a.length < k ↔ a.lengthSq < k * k := by
  rw [length, Scalar.sqrt_real, Real.sqrt_lt a.lengthSq_nonneg hk, sq]

/-- **The scalar product is at most the product of the lengths.** -/
theorem dot_le_length_mul_length (p q : Vec3 ℝ) : p.dot q ≤ p.length * q.length := by
  have hcross : p.dot q ^ 2 ≤ (p.length * q.length) ^ 2 := by
    rw [sq, mul_pow, sq, sq, length_mul_self, length_mul_self, ← sub_nonneg, ← lengthSq_cross]
    exact lengthSq_nonneg _
  exact le_of_sq_le_sq hcross (mul_nonneg p.length_nonneg q.length_nonneg)

/-- How far a vector can point along `p` depends on its part across `q` only, if `p` is
perpendicular to `q`. -/
theorem dot_mul_length_le {p q : Vec3 ℝ} (h : p.dot q = 0) (hq : q ≠ 0) (v : Vec3 ℝ) :
    p.dot v * q.length ≤ p.length * (v.cross q).length := by
  have hacross : (p.cross q).length = p.length * q.length := by
    rw [length, lengthSq_cross, h, mul_zero, sub_zero, Scalar.sqrt_real,
      Real.sqrt_mul p.lengthSq_nonneg]
    rfl
  have hbound := dot_le_length_mul_length (p.cross q) (v.cross q)
  rw [cross_dot_cross, h, MulZeroClass.zero_mul, sub_zero, hacross, ← lengthSq,
    ← length_mul_self] at hbound
  have hpos := length_pos hq
  refine le_of_mul_le_mul_right ?_ hpos
  linarith

end Vec3

/-! ### Rotations -/

def Rotation.IsUnit (q : Rotation ℝ) : Prop := q.x * q.x + q.y * q.y + q.z * q.z + q.w * q.w = 1

theorem Rotation.apply_identity (v : Vec3 ℝ) : Rotation.identity.apply v = v := by
  refine Vec3.ext ?_ ?_ ?_ <;>
    simp [apply, axis, identity, Vec3.dot, Vec3.cross, Vec3.add_def, Vec3.mul_def]

/-- **A rotation of unit length keeps lengths.** -/
theorem Rotation.IsUnit.lengthSq_apply {q : Rotation ℝ} (h : q.IsUnit) (v : Vec3 ℝ) :
    (q.apply v).lengthSq = v.lengthSq := by
  have hscaled : (q.apply v).lengthSq = v.lengthSq *
      ((q.x * q.x + q.y * q.y + q.z * q.z + q.w * q.w) *
        (q.x * q.x + q.y * q.y + q.z * q.z + q.w * q.w)) := by
    have htwo : (2.0 : ℝ) = 2 := by norm_num
    simp only [apply, axis, Vec3.lengthSq, Vec3.dot, Vec3.cross, Vec3.add_def, Vec3.mul_def, htwo]
    ring
  rw [hscaled, h, mul_one, mul_one]

end RagdollDynamics
