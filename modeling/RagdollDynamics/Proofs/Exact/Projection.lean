import RagdollDynamics.Proofs.Exact.Nearest

/-!
# The point of a segment nearest to another point

The nearest point is the projection onto the segment: its parameter is that of the foot of the
perpendicular, moved into the unit interval.  There the segment is supported by the plane across the
line to the other point (`Segment.dot_nearestTo_nonneg`).  So the square of the distance grows by at
least the square of the way along the segment (`Segment.lengthSq_add_lengthSq_le`), and the nearest
point is the only one (`Segment.nearestTo_projects`).
-/

namespace RagdollDynamics

namespace Segment

variable {s : Segment ℝ} {c p : Vec3 ℝ}

/-- The parameter of the nearest point cannot be changed so that the point begins to come closer. -/
theorem stationary_nearestParam (hs : s.span = 0 ∨ Scalar.tolerance ≤ s.span.length) (p : Vec3 ℝ) :
    Stationary ((s.nearestTo p - p).dot s.span) (s.nearestParam p) := by
  unfold nearestTo nearestParam
  split
  next hshort =>
    rcases hs with hs | hs
    · rw [hs, Vec3.dot_zero]
      exact .flat 0
    · have hlong := mul_self_le_mul_self Scalar.tolerance_pos.le hs
      rw [Vec3.length_mul_self] at hlong
      exact absurd hshort hlong.not_gt
  next hlong =>
    have hpos : 0 < s.span.lengthSq :=
      (mul_pos Scalar.tolerance_pos Scalar.tolerance_pos).trans_le (not_lt.1 hlong)
    have hslope : ∀ t, (s.point t - p).dot s.span =
        s.span.lengthSq * t - (p - s.start).dot s.span := by
      intro t
      simp only [point, Vec3.sub_dot, Vec3.add_dot, Vec3.mul_dot, Vec3.lengthSq]
      ring
    rw [hslope]
    exact .clamp hpos _

/-- **The nearest point supports the segment**: from there no point of the segment lies back towards
the point it is nearest to. -/
theorem dot_nearestTo_nonneg (hs : s.span = 0 ∨ Scalar.tolerance ≤ s.span.length)
    (hc : s.Contains c) : 0 ≤ (s.nearestTo p - p).dot (c - s.nearestTo p) := by
  obtain ⟨t, ht, rfl⟩ := hc
  have hstationary := stationary_nearestParam hs p t ht
  have hahead : s.point t - s.nearestTo p = s.span * (t - s.nearestParam p) :=
    s.point_sub_point _ _
  rw [hahead, Vec3.dot_mul]
  exact hstationary

/-- Seen from the nearest point, no point of the segment is at an acute angle with the point it is
nearest to. -/
theorem lengthSq_add_lengthSq_le (hs : s.span = 0 ∨ Scalar.tolerance ≤ s.span.length)
    (hc : s.Contains c) :
    (s.nearestTo p - p).lengthSq + (c - s.nearestTo p).lengthSq ≤ (c - p).lengthSq := by
  have hsupport := dot_nearestTo_nonneg (p := p) hs hc
  have hsplit : c - p = (s.nearestTo p - p) + (c - s.nearestTo p) := (sub_add_sub_cancel' _ _ _).symm
  rw [hsplit, Vec3.lengthSq_add]
  linarith

theorem distance_nearestTo_le (hs : s.span = 0 ∨ Scalar.tolerance ≤ s.span.length)
    (hc : s.Contains c) : (s.nearestTo p).distance p ≤ c.distance p := by
  refine Vec3.length_le_length ?_
  have hpythagoras := lengthSq_add_lengthSq_le (p := p) hs hc
  have hnonneg := (c - s.nearestTo p).lengthSq_nonneg
  linarith

/-- No two points of a segment are nearest. -/
theorem eq_nearestTo_of_distance_le (hs : s.span = 0 ∨ Scalar.tolerance ≤ s.span.length)
    (hc : s.Contains c) (h : c.distance p ≤ (s.nearestTo p).distance p) : c = s.nearestTo p := by
  have hpythagoras := lengthSq_add_lengthSq_le (p := p) hs hc
  have hsquares : (c - p).lengthSq ≤ (s.nearestTo p - p).lengthSq :=
    (Real.sqrt_le_sqrt_iff (Vec3.lengthSq_nonneg _)).1 h
  have hnone : (c - s.nearestTo p).lengthSq = 0 := by
    refine le_antisymm ?_ (Vec3.lengthSq_nonneg _)
    linarith
  exact sub_eq_zero.1 (Vec3.lengthSq_eq_zero_iff.1 hnone)

/-- **The nearest point is the projection onto the segment**, if the segment is a point or not
shorter than the tolerance.  It has a parameter in the unit interval, every other point of the
segment is farther away, and the segment stays on the far side of the plane through it that is
perpendicular to the way there. -/
theorem nearestTo_projects (s : Segment ℝ) (p : Vec3 ℝ)
    (hs : s.span.lengthSq = 0 ∨ Scalar.tolerance * Scalar.tolerance ≤ s.span.lengthSq) :
    s.nearestParam p ∈ Set.Icc (0 : ℝ) 1 ∧
    s.nearestTo p = s.start + (s.finish - s.start) * s.nearestParam p ∧
    ∀ c, s.Contains c →
      (s.nearestTo p).distance p ≤ c.distance p ∧
      (c.distance p ≤ (s.nearestTo p).distance p → c = s.nearestTo p) ∧
      0 ≤ (s.nearestTo p - p).dot (c - s.nearestTo p) := by
  have hlong : s.span = 0 ∨ Scalar.tolerance ≤ s.span.length := by
    refine hs.imp Vec3.lengthSq_eq_zero_iff.1 fun h => ?_
    exact Real.le_sqrt_of_sq_le ((sq _).trans_le h)
  refine ⟨s.nearestParam_mem p, rfl, fun c hc => ?_⟩
  exact ⟨distance_nearestTo_le hlong hc, eq_nearestTo_of_distance_le hlong hc,
    dot_nearestTo_nonneg hlong hc⟩

noncomputable def ladder : Segment ℝ := ⟨0, ⟨0.6, 0.8, 0⟩⟩

theorem nearestTo_ladder : ladder.nearestTo ⟨0.6, -0.2, 2⟩ = ⟨0.12, 0.16, 0⟩ ∧
    ladder.nearestTo ⟨2, 0, 0⟩ = ladder.finish := by
  norm_num [nearestTo, nearestParam, point, span, ladder, Vec3.lengthSq, Vec3.dot, Vec3.sub_def,
    Vec3.add_def, Vec3.mul_def, Vec3.zero_def, Scalar.tolerance, Scalar.clamp]

/-- The point nearest to one beside the ladder, and the point nearest to one beyond its end. -/
theorem nearestTo_projects_of_ladder :
    Scalar.tolerance * Scalar.tolerance ≤ ladder.span.lengthSq ∧
    (∀ c, ladder.Contains c →
      Vec3.distance ⟨0.12, 0.16, 0⟩ ⟨0.6, -0.2, 2⟩ ≤ c.distance ⟨0.6, -0.2, 2⟩ ∧
      0 ≤ (⟨-0.48, 0.36, -2⟩ : Vec3 ℝ).dot (c - ⟨0.12, 0.16, 0⟩)) ∧
    ∀ c, ladder.Contains c → c.distance ⟨2, 0, 0⟩ ≤ ladder.finish.distance ⟨2, 0, 0⟩ →
      c = ladder.finish := by
  have hlong : Scalar.tolerance * Scalar.tolerance ≤ ladder.span.lengthSq := by
    norm_num [ladder, span, Vec3.lengthSq, Vec3.dot, Vec3.sub_def, Vec3.zero_def, Scalar.tolerance]
  obtain ⟨hbeside, hbeyond⟩ := nearestTo_ladder
  obtain ⟨-, -, hfoot⟩ := nearestTo_projects ladder ⟨0.6, -0.2, 2⟩ (.inr hlong)
  obtain ⟨-, -, hend⟩ := nearestTo_projects ladder ⟨2, 0, 0⟩ (.inr hlong)
  have hway : (⟨0.12, 0.16, 0⟩ : Vec3 ℝ) - ⟨0.6, -0.2, 2⟩ = ⟨-0.48, 0.36, -2⟩ := by
    norm_num [Vec3.sub_def]
  rw [hbeside, hway] at hfoot
  rw [hbeyond] at hend
  exact ⟨hlong, fun c hc => ⟨(hfoot c hc).1, (hfoot c hc).2.2⟩, fun c hc => (hend c hc).2.1⟩

end Segment

end RagdollDynamics
