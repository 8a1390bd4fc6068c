import Mathlib.Tactic.FieldSimp
import RagdollDynamics.Proofs.Exact.Overlap
import RagdollDynamics.Proofs.Exact.Products

/-!
# Closest points are closest

The square of the distance between a point of one segment and a point of another is a convex
quadratic function of the two parameters.  It is least where neither of its two slopes leads
anywhere lower without leaving the unit interval (`Segment.length_gap_le`), and the parameters that
are chosen for two segments are such a place (`Segment.balanced_nearestParams`).
-/

namespace RagdollDynamics

theorem Scalar.tolerance_pos : (0 : ℝ) < Scalar.tolerance := by norm_num [Scalar.tolerance]

/-! ### Slopes on the unit interval -/

/-- A function with slope `g` at `x` does not begin to fall on the way from `x` to any other point
of the unit interval. -/
def Stationary (g x : ℝ) : Prop := ∀ y ∈ Set.Icc (0 : ℝ) 1, 0 ≤ g * (y - x)

namespace Stationary

variable {g k n x : ℝ}

theorem flat (x : ℝ) : Stationary 0 x := by
  intro y _
  rw [zero_mul]

theorem at_zero (h : 0 ≤ g) : Stationary g 0 := by
  intro y hy
  rw [sub_zero]
  exact mul_nonneg h hy.1

theorem at_one (h : g ≤ 0) : Stationary g 1 := by
  intro y hy
  exact mul_nonneg_of_nonpos_of_nonpos h (sub_nonpos.2 hy.2)

theorem div (h : Stationary g x) (hk : 0 < k) : Stationary (g / k) x := by
  intro y hy
  rw [div_mul_eq_mul_div]
  exact div_nonneg (h y hy) hk.le

/-- A function whose slope grows and vanishes at `n / k` is least at the point of the interval
nearest to it. -/
theorem clamp (hk : 0 < k) (n : ℝ) :
    Stationary (k * Scalar.clamp (n / k) 0 1 - n) (Scalar.clamp (n / k) 0 1) := by
  have hroot : k * (n / k) = n := mul_div_cancel₀ n hk.ne'
  unfold Scalar.clamp
  split
  next hbelow =>
    refine at_zero ?_
    have hn : n < 0 := by
      rw [← hroot]
      exact mul_neg_of_pos_of_neg hk hbelow
    linarith
  next =>
    split
    next habove =>
      refine at_one ?_
      have hn : k < n := (one_lt_div hk).1 habove
      linarith
    next =>
      rw [hroot, sub_self]
      exact flat _

end Stationary

/-! ### The distance between points of two segments -/

namespace Segment

variable (s u : Segment ℝ)

/-- The displacement between a point of `s` and a point of `u`, given by their parameters. -/
noncomputable def gap (p : ℝ × ℝ) : Vec3 ℝ := s.point p.1 - u.point p.2

/-- Neither parameter can be changed so that the points begin to come closer to each other. -/
def Balanced (p : ℝ × ℝ) : Prop :=
  Stationary ((s.gap u p).dot s.span) p.1 ∧ Stationary (-(s.gap u p).dot u.span) p.2

variable {s u}

theorem point_sub_point (s : Segment ℝ) (x y : ℝ) : s.point x - s.point y = s.span * (x - y) := by
  refine Vec3.ext ?_ ?_ ?_ <;>
    · simp only [point, Vec3.sub_def, Vec3.add_def, Vec3.mul_def]
      ring

theorem gap_dot_span (s u : Segment ℝ) (p : ℝ × ℝ) : (s.gap u p).dot s.span =
    s.span.lengthSq * p.1 - s.span.dot u.span * p.2 + s.span.dot (s.start - u.start) := by
  simp only [gap, point, Vec3.lengthSq, Vec3.dot, Vec3.sub_def, Vec3.add_def, Vec3.mul_def]
  ring

theorem neg_gap_dot_span (s u : Segment ℝ) (p : ℝ × ℝ) : -(s.gap u p).dot u.span =
    u.span.lengthSq * p.2 - (s.span.dot u.span * p.1 + u.span.dot (s.start - u.start)) := by
  simp only [gap, point, Vec3.lengthSq, Vec3.dot, Vec3.sub_def, Vec3.add_def, Vec3.mul_def]
  ring

theorem balanced_iff {p : ℝ × ℝ} : s.Balanced u p ↔
    Stationary (s.span.lengthSq * p.1 - s.span.dot u.span * p.2 + s.span.dot (s.start - u.start))
      p.1 ∧
    Stationary (u.span.lengthSq * p.2 - (s.span.dot u.span * p.1 + u.span.dot (s.start - u.start)))
      p.2 := by
  rw [Balanced, gap_dot_span, neg_gap_dot_span]

theorem lengthSq_gap (s u : Segment ℝ) (p q : ℝ × ℝ) : (s.gap u q).lengthSq =
    (s.gap u p).lengthSq +
      2 * ((s.gap u p).dot s.span * (q.1 - p.1) + -(s.gap u p).dot u.span * (q.2 - p.2)) +
      (s.span * (q.1 - p.1) - u.span * (q.2 - p.2)).lengthSq := by
  simp only [gap, point, Vec3.lengthSq, Vec3.dot, Vec3.sub_def, Vec3.add_def, Vec3.mul_def]
  ring

/-- Points are as close as others to which neither slope leads down. -/
theorem length_gap_le {p q : ℝ × ℝ}
    (h : 0 ≤ (s.gap u p).dot s.span * (q.1 - p.1) + -(s.gap u p).dot u.span * (q.2 - p.2)) :
    (s.gap u p).length ≤ (s.gap u q).length := by
  have hcurved := (s.span * (q.1 - p.1) - u.span * (q.2 - p.2)).lengthSq_nonneg
  refine Vec3.length_le_length ?_
  rw [lengthSq_gap s u p q]
  linarith

/-- **Balanced points are closest.** -/
theorem Balanced.length_gap_le {p q : ℝ × ℝ} (h : s.Balanced u p)
    (hq : q ∈ Set.Icc (0 : ℝ) 1 ×ˢ Set.Icc (0 : ℝ) 1) :
    (s.gap u p).length ≤ (s.gap u q).length :=
  Segment.length_gap_le (add_nonneg (h.1 q.1 hq.1) (h.2 q.2 hq.2))

/-! ### The chosen parameters -/

/-- The first parameter where the second one follows it freely: one that is undetermined is zero. -/
theorem stationary_free {d n : ℝ} (h : Scalar.tolerance < d ∨ d = 0 ∧ n = 0) :
    Stationary (d * (if Scalar.tolerance < d then Scalar.clamp (n / d) 0 1 else 0) - n)
      (if Scalar.tolerance < d then Scalar.clamp (n / d) 0 1 else 0) := by
  rcases h with hd | ⟨hd, hn⟩
  · rw [if_pos hd]
    exact .clamp (Scalar.tolerance_pos.trans hd) n
  · rw [hd, hn, if_neg Scalar.tolerance_pos.not_gt, zero_mul, sub_zero]
    exact .flat 0

section Following

/-! A convex quadratic function of `x` and `t` with the slopes `a * x - b * t + c` and
`e * t - (b * x + f)`, and a first parameter `x` that is right if the second one follows it freely,
which is to `(b * x + f) / e`. -/

variable {a b c e f x y : ℝ}

/-- The second parameter stays within its interval, and the first one stays where it is. -/
theorem stationary_between (he : 0 < e)
    (hfree : Stationary (e * (a * x + c) - b * (b * x + f)) x) :
    Stationary (a * x - b * ((b * x + f) / e) + c) x ∧
    Stationary (e * ((b * x + f) / e) - (b * x + f)) ((b * x + f) / e) := by
  have hfollows : e * ((b * x + f) / e) = b * x + f := mul_div_cancel₀ _ he.ne'
  constructor
  · have hslope : a * x - b * ((b * x + f) / e) + c =
        (e * (a * x + c) - b * (b * x + f)) / e := by
      field_simp
      ring
    rw [hslope]
    exact hfree.div he
  · rw [hfollows, sub_self]
    exact .flat _

/-- How far the second parameter is drawn beyond an end of its interval, before and after the first
parameter followed it there: not to the other side, and no farther than before. -/
theorem mul_self_le_mul_of_stationary (he : 0 ≤ e) (hab : b * b ≤ a * e)
    (hx : x ∈ Set.Icc (0 : ℝ) 1) (hy : y ∈ Set.Icc (0 : ℝ) 1)
    (hfree : Stationary (e * (a * x + c) - b * (b * x + f)) x) (hend : Stationary (a * y + c) y) :
    (b * y + f) * (b * y + f) ≤ (b * y + f) * (b * x + f) := by
  have hpushed := mul_nonneg he (hend x hx)
  have hfreed := hfree y hy
  have hcurved := mul_nonneg (sub_nonneg.2 hab) (mul_self_nonneg (y - x))
  -- the three products add up to the difference of the two sides
  linarith

variable (ha : 0 < a) (he : 0 < e) (hab : b * b ≤ a * e) (hx : x ∈ Set.Icc (0 : ℝ) 1)
  (hfree : Stationary (e * (a * x + c) - b * (b * x + f)) x)

include ha he hab hx hfree

/-- The second parameter stops at zero, and the first one follows it there. -/
theorem stationary_at_zero (hbelow : (b * x + f) / e < 0) :
    Stationary (a * Scalar.clamp (-c / a) 0 1 - b * 0 + c) (Scalar.clamp (-c / a) 0 1) ∧
    Stationary (e * 0 - (b * Scalar.clamp (-c / a) 0 1 + f)) 0 := by
  have hend : Stationary (a * Scalar.clamp (-c / a) 0 1 + c) (Scalar.clamp (-c / a) 0 1) := by
    rw [← sub_neg_eq_add]
    exact .clamp ha (-c)
  have hdrawn := mul_self_le_mul_of_stationary he.le hab hx (Scalar.clamp_mem _) hfree hend
  have hout : b * x + f < 0 := by
    rw [← zero_mul e]
    exact (div_lt_iff₀ he).1 hbelow
  constructor
  · rw [mul_zero, sub_zero]
    exact hend
  · refine .at_zero ?_
    rw [mul_zero, zero_sub, neg_nonneg]
    by_contra hinside
    have hle := le_of_mul_le_mul_left hdrawn (not_le.1 hinside)
    exact hinside (hle.trans hout.le)

/-- The second parameter stops at one, and the first one follows it there. -/
theorem stationary_at_one (habove : 1 < (b * x + f) / e) :
    Stationary (a * Scalar.clamp ((b - c) / a) 0 1 - b * 1 + c) (Scalar.clamp ((b - c) / a) 0 1) ∧
    Stationary (e * 1 - (b * Scalar.clamp ((b - c) / a) 0 1 + f)) 1 := by
  have hend : Stationary (a * Scalar.clamp ((b - c) / a) 0 1 + (c - b))
      (Scalar.clamp ((b - c) / a) 0 1) := by
    rw [← sub_neg_eq_add, neg_sub]
    exact .clamp ha (b - c)
  -- with the second parameter counted from one the first one is right as before
  have hfree' : Stationary (e * (a * x + (c - b)) - b * (b * x + (f - e))) x := by
    have hsame : e * (a * x + (c - b)) - b * (b * x + (f - e)) =
        e * (a * x + c) - b * (b * x + f) := by ring
    exact hsame ▸ hfree
  have hdrawn := mul_self_le_mul_of_stationary he.le hab hx (Scalar.clamp_mem _) hfree' hend
  have hout : 0 < b * x + (f - e) := by
    have hlt : e < b * x + f := (one_lt_div he).1 habove
    linarith
  constructor
  · have hslope : ∀ y : ℝ, a * y - b * 1 + c = a * y + (c - b) := fun y => by ring
    rw [hslope]
    exact hend
  · refine .at_one ?_
    by_contra hinside
    have hneg : b * Scalar.clamp ((b - c) / a) 0 1 + (f - e) < 0 := by linarith
    have hle := (mul_le_mul_left_of_neg hneg).1 hdrawn
    linarith

end Following

theorem balanced_nearestParams_of_proper
    (hs : Scalar.tolerance < s.span.lengthSq) (hu : Scalar.tolerance < u.span.lengthSq)
    (hcross : Scalar.tolerance < (s.span.cross u.span).lengthSq ∨ s.span.cross u.span = 0) :
    s.Balanced u (s.nearestParams u) := by
  unfold nearestParams
  extract_lets d₁ d₂ r a e f c b denom t₁ t₂
  have ha : 0 < a := Scalar.tolerance_pos.trans hs
  have he : 0 < e := Scalar.tolerance_pos.trans hu
  have hdenom : denom = (d₁.cross d₂).lengthSq := (Vec3.lengthSq_cross d₁ d₂).symm
  have hab : b * b ≤ a * e := by
    rw [← sub_nonneg]
    exact le_of_le_of_eq (d₁.cross d₂).lengthSq_nonneg hdenom.symm
  have hskew : b * f - c * e = (d₁.cross d₂).dot (d₂.cross r) := by
    rw [Vec3.cross_dot_cross]
    rfl
  have ht₁ : t₁ ∈ Set.Icc (0 : ℝ) 1 := by
    unfold t₁
    split
    · exact Scalar.clamp_mem _
    · exact ⟨le_refl 0, zero_le_one⟩
  have hfree : Stationary (e * (a * t₁ + c) - b * (b * t₁ + f)) t₁ := by
    have hslope : e * (a * t₁ + c) - b * (b * t₁ + f) = denom * t₁ - (b * f - c * e) := by
      ring
    rw [hslope]
    refine stationary_free (hcross.imp (fun h => lt_of_lt_of_eq h hdenom.symm) fun h => ⟨?_, ?_⟩)
    · rw [hdenom, Vec3.lengthSq_eq_zero_iff]
      exact h
    · have hzero : d₁.cross d₂ = 0 := h
      rw [hskew, hzero, Vec3.zero_dot]
  rw [if_neg hs.not_ge, if_neg hu.not_ge, balanced_iff]
  split
  next hbelow => exact stationary_at_zero ha he hab ht₁ hfree hbelow
  next =>
    split
    next habove => exact stationary_at_one ha he hab ht₁ hfree habove
    next => exact stationary_between he hfree

theorem balanced_nearestParams_of_point (hs : s.span = 0)
    (hu : u.span = 0 ∨ Scalar.tolerance < u.span.lengthSq) : s.Balanced u (s.nearestParams u) := by
  have hshort : s.span.lengthSq = 0 := Vec3.lengthSq_eq_zero_iff.2 hs
  unfold nearestParams
  extract_lets d₁ d₂ r a e f c b denom t₁ t₂
  have ha : a ≤ Scalar.tolerance := le_of_eq_of_le hshort Scalar.tolerance_pos.le
  rw [if_pos ha, balanced_iff, hshort, hs]
  simp only [Vec3.zero_dot, zero_mul, sub_zero, zero_add]
  refine ⟨.flat 0, ?_⟩
  rcases hu with hu | hu
  · have he : e = 0 := Vec3.lengthSq_eq_zero_iff.2 hu
    rw [if_pos (le_of_eq_of_le he Scalar.tolerance_pos.le), hu]
    simp only [Vec3.zero_dot, mul_zero, sub_zero]
    exact .flat 0
  · rw [if_neg hu.not_ge]
    exact .clamp (Scalar.tolerance_pos.trans hu) f

theorem balanced_nearestParams_to_point (hs : Scalar.tolerance < s.span.lengthSq)
    (hu : u.span = 0) : s.Balanced u (s.nearestParams u) := by
  have hshort : u.span.lengthSq = 0 := Vec3.lengthSq_eq_zero_iff.2 hu
  unfold nearestParams
  extract_lets d₁ d₂ r a e f c b denom t₁ t₂
  have ha : 0 < a := Scalar.tolerance_pos.trans hs
  have he : e ≤ Scalar.tolerance := le_of_eq_of_le hshort Scalar.tolerance_pos.le
  rw [if_neg hs.not_ge, if_pos he, balanced_iff, hshort, hu]
  simp only [Vec3.zero_dot, Vec3.dot_zero, zero_mul, sub_zero, zero_add]
  refine ⟨?_, .flat 0⟩
  rw [← sub_neg_eq_add]
  exact .clamp ha (-c)

/-- **The parameters that are chosen for two segments are balanced**, if none of the segments is
short without being a point and the two are not nearly parallel without being parallel. -/
theorem balanced_nearestParams (hs : s.span = 0 ∨ Scalar.tolerance < s.span.lengthSq)
    (hu : u.span = 0 ∨ Scalar.tolerance < u.span.lengthSq)
    (hcross : s.span ≠ 0 → u.span ≠ 0 →
      Scalar.tolerance < (s.span.cross u.span).lengthSq ∨ s.span.cross u.span = 0) :
    s.Balanced u (s.nearestParams u) := by
  rcases hs with hs | hs
  · exact balanced_nearestParams_of_point hs hu
  · rcases hu with hu | hu
    · exact balanced_nearestParams_to_point hs hu
    · have hne : ∀ v : Vec3 ℝ, Scalar.tolerance < v.lengthSq → v ≠ 0 := by
        rintro v hv rfl
        rw [Vec3.lengthSq_eq_zero_iff.2 rfl] at hv
        exact Scalar.tolerance_pos.not_gt hv
      exact balanced_nearestParams_of_proper hs hu (hcross (hne _ hs) (hne _ hu))

/-- **No two points of two segments are closer than the nearest ones**, if the square of the length
of each segment is zero or above the tolerance, and two segments that are no points are parallel or
differ in direction by more than the tolerance. -/
theorem nearestPoints_optimal (s u : Segment ℝ)
    (hs : s.span = 0 ∨ Scalar.tolerance < s.span.lengthSq)
    (hu : u.span = 0 ∨ Scalar.tolerance < u.span.lengthSq)
    (hcross : s.span ≠ 0 → u.span ≠ 0 →
      Scalar.tolerance < s.span.lengthSq * u.span.lengthSq - s.span.dot u.span * s.span.dot u.span ∨
        s.span.cross u.span = 0) :
    s.Contains (s.nearestPoints u).1 ∧ u.Contains (s.nearestPoints u).2 ∧
    ∀ p q, s.Contains p → u.Contains q →
      (s.nearestPoints u).1.distance (s.nearestPoints u).2 ≤ p.distance q := by
  rw [← Vec3.lengthSq_cross] at hcross
  have hbalanced := balanced_nearestParams hs hu hcross
  refine ⟨(s.contains_nearestPoints u).1, (s.contains_nearestPoints u).2, ?_⟩
  rintro p q ⟨x, hx, rfl⟩ ⟨y, hy, rfl⟩
  exact hbalanced.length_gap_le (q := (x, y)) ⟨hx, hy⟩

/-! ### A beam and a rafter -/

def beam : Segment ℝ := ⟨⟨-1, 0, 0⟩, ⟨1, 0, 0⟩⟩

/-- A segment that rises from above the beam; continued downwards it would meet its start. -/
noncomputable def rafter : Segment ℝ := ⟨⟨0, 1, 0⟩, ⟨0.5, 1.5, 0⟩⟩

theorem nearestPoints_beam : beam.nearestPoints rafter = (⟨0, 0, 0⟩, ⟨0, 1, 0⟩) := by
  norm_num [nearestPoints, nearestParams, beam, rafter, span, point, Vec3.lengthSq, Vec3.dot,
    Vec3.sub_def, Vec3.add_def, Vec3.mul_def, Scalar.tolerance, Scalar.clamp]

/-- The rafter is closest where it starts, and the beam below that. -/
theorem nearestPoints_optimal_of_rafter :
    (beam.span = 0 ∨ Scalar.tolerance < beam.span.lengthSq) ∧
    (rafter.span = 0 ∨ Scalar.tolerance < rafter.span.lengthSq) ∧
    Scalar.tolerance < beam.span.lengthSq * rafter.span.lengthSq -
      beam.span.dot rafter.span * beam.span.dot rafter.span ∧
    beam.Contains ⟨0, 0, 0⟩ ∧ rafter.Contains ⟨0, 1, 0⟩ ∧
    ∀ p q, beam.Contains p → rafter.Contains q → 1 ≤ p.distance q := by
  have hlong : Scalar.tolerance < beam.span.lengthSq := by
    norm_num [beam, span, Vec3.lengthSq, Vec3.dot, Vec3.sub_def, Scalar.tolerance]
  have hlong' : Scalar.tolerance < rafter.span.lengthSq := by
    norm_num [rafter, span, Vec3.lengthSq, Vec3.dot, Vec3.sub_def, Scalar.tolerance]
  have hskew : Scalar.tolerance < beam.span.lengthSq * rafter.span.lengthSq -
      beam.span.dot rafter.span * beam.span.dot rafter.span := by
    norm_num [beam, rafter, span, Vec3.lengthSq, Vec3.dot, Vec3.sub_def, Scalar.tolerance]
  have hbest := nearestPoints_optimal beam rafter (.inr hlong) (.inr hlong') fun _ _ => .inl hskew
  have hdistance : Vec3.distance (⟨0, 0, 0⟩ : Vec3 ℝ) ⟨0, 1, 0⟩ = 1 := by
    norm_num [Vec3.distance, Vec3.length, Vec3.lengthSq, Vec3.dot, Vec3.sub_def, Scalar.sqrt_real]
  rw [nearestPoints_beam, hdistance] at hbest
  exact ⟨.inr hlong, .inr hlong', hskew, hbest⟩

end Segment

end RagdollDynamics
