import RagdollDynamics.Proofs.Exact.Nearest

/-!
# Points of solids

A point belongs to a rounded solid if one of its balls holds it: for a capsule, if it lies near the
core.  Such a point lies in a ball around an end of the core or in the tube between the ends
(`Segment.Near.cases`).
-/

namespace RagdollDynamics

/-- The point lies in the ball or on its surface. -/
def Ball.Holds (b : Ball ℝ) (p : Vec3 ℝ) : Prop := p.distance b.center ≤ b.radius

/-- The point lies in the ball and not on its surface. -/
def Ball.Encloses (b : Ball ℝ) (p : Vec3 ℝ) : Prop := p.distance b.center < b.radius

theorem Ball.holds_iff {b : Ball ℝ} (hr : 0 ≤ b.radius) {p : Vec3 ℝ} :
    b.Holds p ↔ (p - b.center).lengthSq ≤ b.radius * b.radius :=
  Vec3.length_le_iff hr

theorem Ball.encloses_iff {b : Ball ℝ} (hr : 0 ≤ b.radius) {p : Vec3 ℝ} :
    b.Encloses p ↔ (p - b.center).lengthSq < b.radius * b.radius :=
  Vec3.length_lt_iff hr

theorem Ball.Encloses.radius_nonneg {b : Ball ℝ} {p : Vec3 ℝ} (h : b.Encloses p) : 0 ≤ b.radius :=
  (Vec3.length_nonneg _).trans h.le

/-! ### Tubes -/

namespace Segment

/-- The unit vector along the segment. -/
noncomputable def axis (s : Segment ℝ) : Vec3 ℝ := s.span / s.span.length

noncomputable def height (s : Segment ℝ) (p : Vec3 ℝ) : ℝ := (p - s.start).dot s.axis

/-- The part of a vector that is perpendicular to the segment. -/
noncomputable def across (s : Segment ℝ) (v : Vec3 ℝ) : Vec3 ℝ := v - s.axis * v.dot s.axis

/-- The point lies between the ends of the segment, in the tube of radius `k` around it. -/
def InTube (s : Segment ℝ) (k : ℝ) (p : Vec3 ℝ) : Prop :=
  s.height p ∈ Set.Icc 0 s.span.length ∧ (s.across (p - s.start)).lengthSq ≤ k * k

def Near (s : Segment ℝ) (k : ℝ) (p : Vec3 ℝ) : Prop := ∃ c, s.Contains c ∧ p.distance c ≤ k

variable {s : Segment ℝ} {k : ℝ} {p : Vec3 ℝ}

theorem span_ne_zero (h : Scalar.tolerance < s.span.length) : s.span ≠ 0 := by
  intro hzero
  rw [hzero, Vec3.length_zero] at h
  exact Scalar.tolerance_pos.not_gt h

theorem lengthSq_axis (hs : s.span ≠ 0) : s.axis.lengthSq = 1 := Vec3.lengthSq_div_length hs

theorem span_eq_axis_mul (hs : s.span ≠ 0) : s.span = s.axis * s.span.length :=
  (Vec3.div_mul_cancel _ (Vec3.length_pos hs).ne').symm

theorem across_add_mul (s : Segment ℝ) (m v : Vec3 ℝ) (t : ℝ) :
    s.across (m + v * t) = s.across m + s.across v * t := by
  rw [across, across, across, Vec3.add_dot, Vec3.mul_dot]
  refine Vec3.ext ?_ ?_ ?_ <;>
    · simp only [Vec3.add_def, Vec3.sub_def, Vec3.mul_def]
      ring

theorem across_dot_across (hs : s.span ≠ 0) (v w : Vec3 ℝ) :
    (s.across v).dot (s.across w) = (s.across v).dot w := by
  have haxis : (s.across v).dot s.axis = 0 := by
    rw [across, Vec3.sub_dot, Vec3.mul_dot, ← Vec3.lengthSq, lengthSq_axis hs, one_mul, sub_self]
  rw [across, across, Vec3.dot_sub, Vec3.dot_mul, ← across, haxis, MulZeroClass.zero_mul, sub_zero]

/-- The square of the distance from a point of the line through the segment, by Pythagoras. -/
theorem lengthSq_sub_along (hs : s.span ≠ 0) (p : Vec3 ℝ) (l : ℝ) :
    (p - (s.start + s.axis * l)).lengthSq =
      (s.across (p - s.start)).lengthSq + (s.height p - l) * (s.height p - l) := by
  have hexpand : ∀ l, (p - s.start - s.axis * l).lengthSq =
      (p - s.start).lengthSq - 2 * s.height p * l + l * l := by
    intro l
    have hunit : s.axis.dot s.axis = 1 := lengthSq_axis hs
    simp only [height, Vec3.lengthSq, Vec3.sub_dot, Vec3.dot_sub, Vec3.mul_dot, Vec3.dot_mul, hunit,
      Vec3.dot_comm s.axis]
    ring
  have hacross : s.across (p - s.start) = p - s.start - s.axis * s.height p := rfl
  rw [sub_add_eq_sub_sub, hacross, hexpand, hexpand]
  ring

theorem point_eq_along (hs : s.span ≠ 0) (t : ℝ) :
    s.point t = s.start + s.axis * (s.span.length * t) := by
  have hspan : s.span * t = s.axis * (s.span.length * t) := by
    conv_lhs => rw [span_eq_axis_mul hs]
    simp only [Vec3.mul_def, mul_assoc]
  rw [point, hspan]

theorem start_eq_along (s : Segment ℝ) : s.start = s.start + s.axis * (0 : ℝ) := by
  refine Vec3.ext ?_ ?_ ?_ <;> simp [Vec3.add_def, Vec3.mul_def]

theorem finish_eq_along (hs : s.span ≠ 0) : s.finish = s.start + s.axis * s.span.length := by
  rw [← span_eq_axis_mul hs, span, add_sub_cancel]

/-- **A point near the segment** lies in an end ball or in the tube: beyond an end, the end is the
closest point of the segment. -/
theorem Near.cases (hs : s.span ≠ 0) (hk : 0 ≤ k) (h : s.Near k p) :
    Ball.Holds ⟨s.start, k⟩ p ∨ Ball.Holds ⟨s.finish, k⟩ p ∨ s.InTube k p := by
  obtain ⟨c, ⟨t, ht, rfl⟩, hnear⟩ := h
  have hlength := (Vec3.length_pos hs).le
  rw [Vec3.distance, Vec3.length_le_iff hk, point_eq_along hs, lengthSq_sub_along hs] at hnear
  have hfoot : s.span.length * t ∈ Set.Icc 0 s.span.length :=
    ⟨mul_nonneg hlength ht.1, mul_le_of_le_one_right hlength ht.2⟩
  rcases lt_or_ge (s.height p) 0 with hbelow | hlow
  · refine .inl ((Ball.holds_iff hk).2 ?_)
    dsimp only
    rw [start_eq_along, lengthSq_sub_along hs]
    nlinarith [hfoot.1]
  · rcases lt_or_ge s.span.length (s.height p) with habove | hhigh
    · refine .inr (.inl ((Ball.holds_iff hk).2 ?_))
      dsimp only
      rw [finish_eq_along hs, lengthSq_sub_along hs]
      nlinarith [hfoot.2]
    · refine .inr (.inr ⟨⟨hlow, hhigh⟩, ?_⟩)
      linarith [mul_self_nonneg (s.height p - s.span.length * t)]

theorem InTube.near (hs : s.span ≠ 0) (hk : 0 ≤ k) (h : s.InTube k p) : s.Near k p := by
  obtain ⟨hheight, hacross⟩ := h
  have hlength := Vec3.length_pos hs
  refine ⟨_, ⟨s.height p / s.span.length, ⟨div_nonneg hheight.1 hlength.le,
    (div_le_one hlength).2 hheight.2⟩, rfl⟩, ?_⟩
  rw [Vec3.distance, Vec3.length_le_iff hk, point_eq_along hs, mul_div_cancel₀ _ hlength.ne',
    lengthSq_sub_along hs, sub_self, mul_zero, add_zero]
  exact hacross

theorem near_of_start (h : Ball.Holds ⟨s.start, k⟩ p) : s.Near k p := ⟨_, s.contains_start, h⟩

theorem near_of_finish (h : Ball.Holds ⟨s.finish, k⟩ p) : s.Near k p :=
  ⟨_, s.contains_finish, h⟩

end Segment

/-! ### Solids -/

/-- The point lies in the solid or on its surface. -/
def Solid.Holds (a : Solid ℝ) (p : Vec3 ℝ) : Prop := ∃ x, a.HasBall x ∧ x.Holds p

/-- The point lies in the solid and not on its surface. -/
def Solid.Encloses (a : Solid ℝ) (p : Vec3 ℝ) : Prop := ∃ x, a.HasBall x ∧ x.Encloses p

namespace Solid

variable {a : Solid ℝ} {k h : ℝ} {p : Vec3 ℝ} {P : Ball ℝ → Prop}

theorem exists_hasBall_of_sphere (hform : a.form = .sphere k) :
    (∃ x, a.HasBall x ∧ P x) ↔ P ⟨a.position, k⟩ := by
  refine ⟨?_, fun h => ⟨_, hasBall_of_sphere hform, h⟩⟩
  rintro ⟨x, hx, hP⟩
  have hradius : x.radius = k := by rw [hx.1, hform, Form.radius]
  rw [← hx.center_of_sphere hform, ← hradius]
  exact hP

theorem exists_hasBall_of_capsule (hform : a.form = .capsule k h) :
    (∃ x, a.HasBall x ∧ P x) ↔
      ∃ c, (capsuleCore h a.position a.rotation).Contains c ∧ P ⟨c, k⟩ := by
  refine ⟨?_, fun ⟨c, hc, h⟩ => ⟨_, hasBall_of_capsule hform hc, h⟩⟩
  rintro ⟨x, hx, hP⟩
  have hradius : x.radius = k := by rw [hx.1, hform, Form.radius]
  refine ⟨x.center, hx.contains_of_capsule hform, ?_⟩
  rw [← hradius]
  exact hP

theorem holds_of_sphere (hform : a.form = .sphere k) : a.Holds = Ball.Holds ⟨a.position, k⟩ :=
  funext fun _ => propext (exists_hasBall_of_sphere hform)

theorem holds_of_capsule (hform : a.form = .capsule k h) :
    a.Holds = (capsuleCore h a.position a.rotation).Near k :=
  funext fun _ => propext (exists_hasBall_of_capsule hform)

end Solid

end RagdollDynamics
