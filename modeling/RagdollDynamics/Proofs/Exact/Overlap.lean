import Mathlib.Data.Set.Prod
import Mathlib.Order.Interval.Set.Defs
import Mathlib.Tactic.Ring
import RagdollDynamics.Geometry.Overlap
import RagdollDynamics.Proofs.Exact.Real

/-!
# Reported overlaps are real

A rounded solid is made of equal balls: one for a sphere, one around every point of its core for a
capsule.  Detection reduces two solids to balls of theirs, so that where it reports an overlap there
are balls that meet, or a ball that reaches behind the plane (`Solid.meets_of_overlap?`).
-/

namespace RagdollDynamics

/-! ### Points of segments -/

theorem Scalar.clamp_mem (x : ℝ) : Scalar.clamp x 0 1 ∈ Set.Icc (0 : ℝ) 1 := by
  unfold Scalar.clamp
  split
  · exact ⟨le_refl 0, zero_le_one⟩
  next above =>
    split
    · exact ⟨zero_le_one, le_refl 1⟩
    next below => exact ⟨le_of_not_gt above, le_of_not_gt below⟩

namespace Segment

/-- The point lies on the segment. -/
def Contains (s : Segment ℝ) (p : Vec3 ℝ) : Prop := ∃ t ∈ Set.Icc (0 : ℝ) 1, s.point t = p

variable (s u : Segment ℝ) (p : Vec3 ℝ)

theorem nearestParam_mem : s.nearestParam p ∈ Set.Icc (0 : ℝ) 1 := by
  unfold nearestParam
  split
  · exact ⟨le_refl 0, zero_le_one⟩
  · exact Scalar.clamp_mem _

theorem nearestParams_mem : s.nearestParams u ∈ Set.Icc (0 : ℝ) 1 ×ˢ Set.Icc (0 : ℝ) 1 := by
  have zero : (0 : ℝ) ∈ Set.Icc (0 : ℝ) 1 := ⟨le_refl 0, zero_le_one⟩
  have one : (1 : ℝ) ∈ Set.Icc (0 : ℝ) 1 := ⟨zero_le_one, le_refl 1⟩
  unfold nearestParams
  extract_lets d₁ d₂ r a e f c b denom t₁ t₂
  have first : t₁ ∈ Set.Icc (0 : ℝ) 1 := by
    unfold t₁
    split
    · exact Scalar.clamp_mem _
    · exact zero
  split
  · refine ⟨zero, ?_⟩
    dsimp only
    split
    · exact zero
    · exact Scalar.clamp_mem _
  · split
    · exact ⟨Scalar.clamp_mem _, zero⟩
    · split
      · exact ⟨Scalar.clamp_mem _, zero⟩
      next low =>
        split
        · exact ⟨Scalar.clamp_mem _, one⟩
        next high => exact ⟨first, le_of_not_gt low, le_of_not_gt high⟩

theorem contains_nearestTo : s.Contains (s.nearestTo p) := ⟨_, s.nearestParam_mem p, rfl⟩

theorem contains_nearestPoints :
    s.Contains (s.nearestPoints u).1 ∧ u.Contains (s.nearestPoints u).2 :=
  ⟨⟨_, (s.nearestParams_mem u).1, rfl⟩, ⟨_, (s.nearestParams_mem u).2, rfl⟩⟩

theorem contains_start : s.Contains s.start := by
  refine ⟨0, ⟨le_refl 0, zero_le_one⟩, Vec3.ext ?_ ?_ ?_⟩ <;>
    simp [point, Vec3.add_def, Vec3.mul_def]

theorem contains_finish : s.Contains s.finish := by
  refine ⟨1, ⟨zero_le_one, le_refl 1⟩, Vec3.ext ?_ ?_ ?_⟩ <;>
    simp [point, span, Vec3.add_def, Vec3.sub_def, Vec3.mul_def]

end Segment

theorem contains_capsuleCore (h : ℝ) (p : Vec3 ℝ) (q : Rotation ℝ) :
    (capsuleCore h p q).Contains p := by
  refine ⟨1 / 2, by norm_num, Vec3.ext ?_ ?_ ?_⟩ <;>
    simp only [Segment.point, Segment.span, capsuleCore, Vec3.add_def, Vec3.sub_def,
      Vec3.mul_def] <;>
    ring

/-! ### Balls of solids -/

def Ball.Meets (a b : Ball ℝ) : Prop := a.center.distance b.center < a.radius + b.radius

/-- The ball reaches behind the plane. -/
def Ball.Enters (a : Ball ℝ) (s : Plane ℝ) : Prop := s.signedDistance a.center < a.radius

theorem Ball.meets_of_overlapBall? {a b : Ball ℝ} (reach : 0 ≤ a.radius + b.radius)
    (h : (a.overlapBall? b).isSome) : a.Meets b := by
  unfold overlapBall? at h
  dsimp only at h
  split at h
  · cases h
  next near =>
    have closer := Real.sqrt_lt_sqrt (Vec3.lengthSq_nonneg _) (lt_of_not_ge near)
    rw [Real.sqrt_mul_self reach] at closer
    rwa [Meets, Vec3.distance_comm]

theorem Ball.enters_of_overlapPlane? {a : Ball ℝ} {s : Plane ℝ}
    (h : (a.overlapPlane? s).isSome) : a.Enters s := by
  unfold overlapPlane? at h
  dsimp only at h
  split at h
  · cases h
  next near => exact lt_of_not_ge near

def Form.radius : Form ℝ → ℝ
  | sphere r => r
  | capsule r _ => r
  | plane _ => 0

namespace Solid

/-- The ball is one of those that make up the solid. -/
def HasBall (a : Solid ℝ) (b : Ball ℝ) : Prop :=
  b.radius = a.form.radius ∧
    match a.form with
    | .sphere _ => b.center = a.position
    | .capsule _ h => (capsuleCore h a.position a.rotation).Contains b.center
    | .plane _ => False

noncomputable def face (b : Solid ℝ) (n : Vec3 ℝ) : Plane ℝ := ⟨b.position, b.rotation.apply n⟩

/-- A ball of the one solid meets a ball of the other, or reaches behind the other, a plane. -/
def Meets (a b : Solid ℝ) : Prop :=
  (∃ x y, a.HasBall x ∧ b.HasBall y ∧ x.Meets y) ∨
  (∃ n x, a.form = .plane n ∧ b.HasBall x ∧ x.Enters ⟨a.position, a.rotation.apply n⟩) ∨
  ∃ n x, b.form = .plane n ∧ a.HasBall x ∧ x.Enters ⟨b.position, b.rotation.apply n⟩

variable {a b : Solid ℝ}

theorem hasBall_of_sphere {r : ℝ} (form : a.form = .sphere r) : a.HasBall ⟨a.position, r⟩ := by
  simp [HasBall, form, Form.radius]

theorem hasBall_of_capsule {r h : ℝ} {p : Vec3 ℝ} (form : a.form = .capsule r h)
    (core : (capsuleCore h a.position a.rotation).Contains p) : a.HasBall ⟨p, r⟩ := by
  simpa [HasBall, form, Form.radius] using core

theorem HasBall.center_of_sphere {r : ℝ} {x : Ball ℝ} (h : a.HasBall x)
    (hform : a.form = .sphere r) : x.center = a.position := by
  have h' := h.2
  simpa only [hform] using h'

theorem HasBall.contains_of_capsule {r l : ℝ} {x : Ball ℝ} (h : a.HasBall x)
    (hform : a.form = .capsule r l) : (capsuleCore l a.position a.rotation).Contains x.center := by
  have h' := h.2
  simpa only [hform] using h'

theorem hasBall_of_nearestBalls? {x y : Ball ℝ} (found : a.nearestBalls? b = some (x, y)) :
    a.HasBall x ∧ b.HasBall y := by
  unfold nearestBalls? at found
  split at found
  next formA formB =>
    cases found
    exact ⟨hasBall_of_sphere formA, hasBall_of_sphere formB⟩
  next formA formB =>
    cases found
    exact ⟨hasBall_of_sphere formA, hasBall_of_capsule formB (Segment.contains_nearestTo ..)⟩
  next formA formB =>
    cases found
    exact ⟨hasBall_of_capsule formA (Segment.contains_nearestTo ..), hasBall_of_sphere formB⟩
  next h _ k formA formB =>
    cases found
    have points := Segment.contains_nearestPoints (capsuleCore h a.position a.rotation)
      (capsuleCore k b.position b.rotation)
    exact ⟨hasBall_of_capsule formA points.1, hasBall_of_capsule formB points.2⟩
  next => cases found

theorem hasBall_of_deepestBall? {s : Plane ℝ} {x : Ball ℝ} (found : a.deepestBall? s = some x) :
    a.HasBall x := by
  unfold deepestBall? at found
  split at found
  next form =>
    cases found
    exact hasBall_of_sphere form
  next form =>
    cases found
    refine hasBall_of_capsule form ?_
    -- the middle of the core or one of its ends
    split
    · exact contains_capsuleCore ..
    · split
      · exact Segment.contains_start _
      · exact Segment.contains_finish _
  next => cases found

theorem enters_of_overlapFace? {n : Vec3 ℝ} (h : (a.overlapFace? b n).isSome) :
    ∃ x, a.HasBall x ∧ x.Enters ⟨b.position, b.rotation.apply n⟩ := by
  unfold overlapFace? at h
  dsimp only at h
  cases found : a.deepestBall? ⟨b.position, b.rotation.apply n⟩ with
  | none =>
    rw [found] at h
    cases h
  | some x =>
    rw [found, Option.bind_some] at h
    exact ⟨x, hasBall_of_deepestBall? found, Ball.enters_of_overlapPlane? h⟩

theorem meets_of_nearestBalls? (ha : 0 ≤ a.form.radius) (hb : 0 ≤ b.form.radius)
    (h : ((a.nearestBalls? b).bind fun balls => balls.1.overlapBall? balls.2).isSome) :
    ∃ x y, a.HasBall x ∧ b.HasBall y ∧ x.Meets y := by
  cases found : a.nearestBalls? b with
  | none =>
    rw [found] at h
    cases h
  | some balls =>
    obtain ⟨hx, hy⟩ := hasBall_of_nearestBalls? found
    have reach : 0 ≤ balls.1.radius + balls.2.radius := by
      rw [hx.1, hy.1]
      exact add_nonneg ha hb
    rw [found, Option.bind_some] at h
    exact ⟨balls.1, balls.2, hx, hy, Ball.meets_of_overlapBall? reach h⟩

/-- **Reported overlaps are real**: balls of the two solids meet, or a ball of the one reaches
behind the other. -/
theorem meets_of_overlap? (ha : 0 ≤ a.form.radius) (hb : 0 ≤ b.form.radius)
    (h : (a.overlap? b).isSome) : a.Meets b := by
  unfold overlap? at h
  split at h
  next => cases h
  next n form _ =>
    rw [Option.isSome_map] at h
    obtain ⟨x, hx, enters⟩ := enters_of_overlapFace? h
    exact .inr (.inl ⟨n, x, form, hx, enters⟩)
  next n form _ =>
    obtain ⟨x, hx, enters⟩ := enters_of_overlapFace? h
    exact .inr (.inr ⟨n, x, form, hx, enters⟩)
  next => exact .inl (meets_of_nearestBalls? ha hb h)

end Solid

end RagdollDynamics
