import Mathlib.Tactic.Abel
import RagdollDynamics.Proofs.Contact.Sides
import RagdollDynamics.Proofs.Exact.Separation

/-!
# Overlaps told from either side

In exact arithmetic two solids are found to overlap in whichever order they are tested, and unless
the centres of the two balls that are found nearly coincide, the one account mirrors the other.  For
a plane the accounts are made to mirror each other; for two capsules it is because two long segments
that are not nearly parallel have only one pair of closest points
(`Segment.Balanced.eq_of_skew`).
-/

namespace RagdollDynamics

/-! ### Closest points of two segments -/

namespace Vec3

variable {v w : Vec3 ℝ} {k l : ℝ}

theorem cross_self (v : Vec3 ℝ) : v.cross v = 0 := by
  refine Vec3.ext ?_ ?_ ?_ <;>
    · simp only [cross, zero_def]
      ring

theorem cross_comm (v w : Vec3 ℝ) : w.cross v = -v.cross w := by
  refine Vec3.ext ?_ ?_ ?_ <;>
    · simp only [cross, neg_def]
      ring

theorem eq_zero_of_mul_eq_zero (hv : v ≠ 0) (h : v * k = 0) : k = 0 := by
  have hsq : v.lengthSq * (k * k) = 0 := by rw [← lengthSq_mul, lengthSq_eq_zero_iff, h]
  have hne : v.lengthSq ≠ 0 := fun hzero => hv (lengthSq_eq_zero_iff.1 hzero)
  exact mul_self_eq_zero.1 ((mul_eq_zero.1 hsq).resolve_left hne)

/-- A vector that is not parallel to another one has no multiple in common with it but zero. -/
theorem eq_zero_of_mul_eq_mul (hskew : v.cross w ≠ 0) (h : v * k = w * l) : k = 0 := by
  have hcross := congrArg (fun x : Vec3 ℝ => x.cross w) h
  simp only [mul_cross, cross_self, zero_mul] at hcross
  exact eq_zero_of_mul_eq_zero hskew hcross

end Vec3

namespace Segment

variable {s u : Segment ℝ} {p q : ℝ × ℝ}

theorem gap_swap (s u : Segment ℝ) (p : ℝ × ℝ) : u.gap s p.swap = -s.gap u p := by
  rw [gap, gap, neg_sub]
  rfl

theorem Balanced.swap (h : s.Balanced u p) : u.Balanced s p.swap := by
  rw [Balanced, gap_swap, Vec3.neg_dot, Vec3.neg_dot, neg_neg]
  exact ⟨h.2, h.1⟩

/-- **Balanced points are unique**, if the segments are not parallel: the square of the distance is
strictly convex. -/
theorem Balanced.eq_of_skew (hskew : s.span.cross u.span ≠ 0) (hp : s.Balanced u p)
    (hq : s.Balanced u q) (hp' : p ∈ Set.Icc (0 : ℝ) 1 ×ˢ Set.Icc (0 : ℝ) 1)
    (hq' : q ∈ Set.Icc (0 : ℝ) 1 ×ˢ Set.Icc (0 : ℝ) 1) : p = q := by
  have hforth := lengthSq_gap s u p q
  have hback := lengthSq_gap s u q p
  have hslopes := add_nonneg (add_nonneg (hp.1 q.1 hq'.1) (hp.2 q.2 hq'.2))
    (add_nonneg (hq.1 p.1 hp'.1) (hq.2 p.2 hp'.2))
  have hcurved := (s.span * (p.1 - q.1) - u.span * (p.2 - q.2)).lengthSq_nonneg
  -- the way there and the way back add up to nothing, so that neither is curved
  have hflat : (s.span * (q.1 - p.1) - u.span * (q.2 - p.2)).lengthSq = 0 :=
    le_antisymm (by linarith) (Vec3.lengthSq_nonneg _)
  have hsame : s.span * (q.1 - p.1) = u.span * (q.2 - p.2) :=
    sub_eq_zero.1 (Vec3.lengthSq_eq_zero_iff.1 hflat)
  have hskew' : u.span.cross s.span ≠ 0 := by
    rw [Vec3.cross_comm]
    exact neg_ne_zero.2 hskew
  exact Prod.ext (sub_eq_zero.1 (Vec3.eq_zero_of_mul_eq_mul hskew hsame)).symm
    (sub_eq_zero.1 (Vec3.eq_zero_of_mul_eq_mul hskew' hsame.symm)).symm

/-- Two segments that are long and not nearly parallel. -/
structure Askew (s u : Segment ℝ) : Prop where
  first : Scalar.tolerance < s.span.lengthSq
  second : Scalar.tolerance < u.span.lengthSq
  cross : Scalar.tolerance <
    s.span.lengthSq * u.span.lengthSq - s.span.dot u.span * s.span.dot u.span

theorem Askew.symm (h : s.Askew u) : u.Askew s where
  first := h.second
  second := h.first
  cross := by
    rw [mul_comm, Vec3.dot_comm]
    exact h.cross

theorem Askew.balanced (h : s.Askew u) : s.Balanced u (s.nearestParams u) := by
  refine balanced_nearestParams_of_proper h.first h.second (.inl ?_)
  rw [Vec3.lengthSq_cross]
  exact h.cross

theorem Askew.cross_ne_zero (h : s.Askew u) : s.span.cross u.span ≠ 0 := by
  intro hzero
  have hcross := h.cross
  rw [← Vec3.lengthSq_cross, Vec3.lengthSq_eq_zero_iff.2 hzero] at hcross
  exact Scalar.tolerance_pos.not_gt hcross

theorem Askew.nearestParams_swap (h : s.Askew u) :
    u.nearestParams s = (s.nearestParams u).swap := by
  have hbox := s.nearestParams_mem u
  exact h.symm.balanced.eq_of_skew h.symm.cross_ne_zero h.balanced.swap (u.nearestParams_mem s)
    ⟨hbox.2, hbox.1⟩

theorem Askew.nearestPoints_swap (h : s.Askew u) :
    u.nearestPoints s = (s.nearestPoints u).swap := by
  rw [nearestPoints, h.nearestParams_swap]
  rfl

end Segment

/-! ### Balls -/

namespace Ball

variable {a b : Ball ℝ}

end Ball

@[simp] theorem Overlap.swapped_swapped (o : Overlap ℝ) : o.swapped.swapped = o := by
  simp [swapped]

/-! ### Solids -/

namespace Solid

variable {a b : Solid ℝ} {x y : Ball ℝ} {n : Vec3 ℝ}

/-- If the solids are two capsules, their cores are long and not nearly parallel. -/
def Askew (a b : Solid ℝ) : Prop :=
  ∀ r h r' h', a.form = .capsule r h → b.form = .capsule r' h' →
    (capsuleCore h a.position a.rotation).Askew (capsuleCore h' b.position b.rotation)

/-- The centres of the two balls that are found, if the solids are rounded, are farther from each
other than the tolerance. -/
def CentersApart (a b : Solid ℝ) : Prop :=
  ∀ x y, a.nearestBalls? b = some (x, y) → Scalar.tolerance < x.center.distance y.center

theorem nearestBalls?_swap (h : a.Askew b) :
    b.nearestBalls? a = (a.nearestBalls? b).map Prod.swap := by
  cases hformA : a.form with
  | sphere r =>
    cases hformB : b.form <;> simp [nearestBalls?, hformA, hformB]
  | capsule r l =>
    cases hformB : b.form with
    | capsule r' l' =>
      have hpoints := (h r l r' l' hformA hformB).nearestPoints_swap
      simp [nearestBalls?, hformA, hformB, hpoints]
    | _ => simp [nearestBalls?, hformA, hformB]
  | plane m =>
    cases hformB : b.form <;> simp [nearestBalls?, hformA, hformB]

theorem Askew.symm (h : a.Askew b) : b.Askew a :=
  fun r l r' l' hformB hformA => (h r' l' r l hformA hformB).symm

theorem CentersApart.symm (hapart : a.CentersApart b) (h : a.Askew b) : b.CentersApart a := by
  intro y x hballs
  rw [nearestBalls?_swap h] at hballs
  obtain ⟨⟨x', y'⟩, hfound, hswapped⟩ := Option.map_eq_some_iff.1 hballs
  obtain ⟨rfl, rfl⟩ := Prod.ext_iff.1 hswapped
  rw [Vec3.distance_comm]
  exact hapart x' y' hfound

end Solid

end RagdollDynamics
