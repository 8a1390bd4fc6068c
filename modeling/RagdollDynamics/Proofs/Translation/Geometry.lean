import RagdollDynamics.Geometry.Overlap
import RagdollDynamics.Proofs.Exact.Real

/-!
# Translation of geometry

Moving everything by one vector changes no distance, no direction and no parameter along a segment,
and moves every point that is found by that vector.  So two solids that are moved together overlap
as they did before, deepest at the point that moved with them.
-/

namespace RagdollDynamics

/-! ### Segments -/

namespace Segment

noncomputable def translate (v : Vec3 ℝ) (s : Segment ℝ) : Segment ℝ := ⟨s.start + v, s.finish + v⟩

variable (v p : Vec3 ℝ) (s u : Segment ℝ)

@[simp] theorem span_translate : (s.translate v).span = s.span := by simp [translate, span]

@[simp] theorem point_translate (t : ℝ) : (s.translate v).point t = s.point t + v := by
  simp only [point, span_translate]
  exact add_right_comm s.start v (s.span * t)

@[simp] theorem nearestParam_translate :
    (s.translate v).nearestParam (p + v) = s.nearestParam p := by
  have fromStart : p + v - (s.translate v).start = p - s.start := add_sub_add_right_eq_sub ..
  rw [nearestParam, span_translate, fromStart]
  rfl

@[simp] theorem nearestTo_translate : (s.translate v).nearestTo (p + v) = s.nearestTo p + v := by
  simp [nearestTo]

@[simp] theorem nearestParams_translate :
    (s.translate v).nearestParams (u.translate v) = s.nearestParams u := by
  have between : (s.translate v).start - (u.translate v).start = s.start - u.start :=
    add_sub_add_right_eq_sub ..
  rw [nearestParams, span_translate, span_translate, between]
  rfl

@[simp] theorem nearestPoints_translate :
    (s.translate v).nearestPoints (u.translate v)
      = ((s.nearestPoints u).1 + v, (s.nearestPoints u).2 + v) := by
  simp [nearestPoints]

end Segment

/-- The core of a capsule moves with the capsule. -/
@[simp] theorem capsuleCore_add (h : ℝ) (p v : Vec3 ℝ) (q : Rotation ℝ) :
    capsuleCore h (p + v) q = (capsuleCore h p q).translate v := by
  simp only [capsuleCore, Segment.translate, add_sub_right_comm, add_right_comm]

/-! ### Balls and planes -/

noncomputable def Plane.translate (v : Vec3 ℝ) (s : Plane ℝ) : Plane ℝ :=
  { s with point := s.point + v }

@[simp] theorem Plane.signedDistance_translate (v p : Vec3 ℝ) (s : Plane ℝ) :
    (s.translate v).signedDistance (p + v) = s.signedDistance p := by
  simp [signedDistance, translate]

noncomputable def Ball.translate (v : Vec3 ℝ) (b : Ball ℝ) : Ball ℝ :=
  { b with center := b.center + v }

/-- The overlap found where everything is moved by a vector. -/
noncomputable def Overlap.translate (v : Vec3 ℝ) (o : Overlap ℝ) : Overlap ℝ :=
  { o with point := o.point + v }

@[simp] theorem Overlap.swapped_translate (v : Vec3 ℝ) (o : Overlap ℝ) :
    (o.translate v).swapped = o.swapped.translate v := by
  simp only [swapped, translate, add_sub_right_comm]

namespace Ball

variable (v : Vec3 ℝ) (a b : Ball ℝ)

@[simp] theorem overlapBall?_translate :
    (a.translate v).overlapBall? (b.translate v) = (a.overlapBall? b).map (.translate v) := by
  have between : (b.translate v).center - (a.translate v).center = b.center - a.center :=
    add_sub_add_right_eq_sub ..
  simp only [overlapBall?, between]
  by_cases apart : (a.radius + b.radius) * (a.radius + b.radius) ≤ (b.center - a.center).lengthSq
  · simp [translate, apart]
  · simp [translate, apart, Overlap.translate, add_right_comm]

@[simp] theorem overlapPlane?_translate (s : Plane ℝ) :
    (a.translate v).overlapPlane? (s.translate v) = (a.overlapPlane? s).map (.translate v) := by
  have dist : (s.translate v).signedDistance (a.translate v).center = s.signedDistance a.center :=
    Plane.signedDistance_translate ..
  simp only [overlapPlane?, dist]
  by_cases apart : a.radius ≤ s.signedDistance a.center
  · simp [translate, apart]
  · simp [translate, apart, Overlap.translate, Plane.translate, add_sub_right_comm]

end Ball

/-! ### Solids -/

namespace Solid

noncomputable def translate (v : Vec3 ℝ) (a : Solid ℝ) : Solid ℝ :=
  { a with position := a.position + v }

variable (v : Vec3 ℝ) (a b : Solid ℝ)

theorem nearestBalls?_translate :
    (a.translate v).nearestBalls? (b.translate v)
      = (a.nearestBalls? b).map (Prod.map (.translate v) (.translate v)) := by
  unfold nearestBalls?
  cases formA : a.form <;> cases formB : b.form <;>
    simp [translate, formA, formB, Ball.translate]

theorem deepestBall?_translate (s : Plane ℝ) :
    (a.translate v).deepestBall? (s.translate v) = (a.deepestBall? s).map (.translate v) := by
  unfold deepestBall?
  cases form : a.form with
  | sphere r => simp [translate, form, Ball.translate]
  | plane n => simp [translate, form]
  | capsule r h =>
    simp only [translate, form, capsuleCore_add, Segment.translate,
      Plane.signedDistance_translate, Option.map_some, Ball.translate]
    -- the same two tests on both sides choose between three centres
    split
    · rfl
    · split <;> rfl

theorem overlapFace?_translate (n : Vec3 ℝ) :
    (a.translate v).overlapFace? (b.translate v) n = (a.overlapFace? b n).map (.translate v) := by
  have face : (⟨(b.translate v).position, (b.translate v).rotation.apply n⟩ : Plane ℝ)
      = Plane.translate v ⟨b.position, b.rotation.apply n⟩ := rfl
  simp only [overlapFace?, face, deepestBall?_translate, Option.bind_map, Option.map_bind]
  congr 1
  funext ball
  exact Ball.overlapPlane?_translate ..

theorem overlapRounded_translate :
    ((a.translate v).nearestBalls? (b.translate v)).bind (fun balls => balls.1.overlapBall? balls.2)
      = ((a.nearestBalls? b).bind fun balls => balls.1.overlapBall? balls.2).map
          (.translate v) := by
  simp only [nearestBalls?_translate, Option.bind_map, Option.map_bind]
  congr 1
  funext balls
  exact Ball.overlapBall?_translate ..

/-- Two solids moved together overlap as before, at the point moved with them. -/
theorem overlap?_translate :
    (a.translate v).overlap? (b.translate v) = (a.overlap? b).map (.translate v) := by
  have swapped : Overlap.swapped ∘ .translate v = .translate v ∘ Overlap.swapped :=
    funext fun o => o.swapped_translate v
  have formA : (a.translate v).form = a.form := rfl
  have formB : (b.translate v).form = b.form := rfl
  unfold overlap?
  rw [overlapRounded_translate, formA, formB]
  cases a.form <;> cases b.form <;>
    simp only [overlapFace?_translate, swapped, Option.map_map, Option.map_none]

end Solid

end RagdollDynamics
