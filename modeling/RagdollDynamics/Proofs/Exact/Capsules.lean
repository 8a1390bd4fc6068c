import RagdollDynamics.Proofs.Collision.Capacity
import RagdollDynamics.Proofs.Exact.Nearest

/-!
# Which capsules are found to overlap

Two capsules overlap where their cores come closer to each other than the sum of their radii.  What
is found is never wrong, and nothing is missed if the cores are parallel or far enough from being
so (`Shapes.capsules_detected`).  Between the two the first core is left at its start although the
cores are not parallel, and the points that are found can be farther from each other than the
nearest ones, though not by more than the first core departs from the direction of the second
(`Segment.distance_nearestPoints_le`).
-/

namespace RagdollDynamics

namespace Segment

variable {s u : Segment ℝ} {b e f t x x₀ y y₀ : ℝ}

/-! ### Segments that are nearly parallel -/

/-- How far the segment `s` departs from the direction of `u`. -/
noncomputable def departure (s u : Segment ℝ) : ℝ := (s.span.cross u.span).length / u.span.length

theorem departure_nonneg (s u : Segment ℝ) : 0 ≤ s.departure u :=
  div_nonneg (Vec3.length_nonneg _) (Vec3.length_nonneg _)

/-- A point of `s` and the point nearest to it on the line through `u` are closer to each other than
any other two points but for the departure on the way to them. -/
theorem length_gap_le_of_free (hu : u.span ≠ 0) (hfree : (s.gap u (x₀, y₀)).dot u.span = 0) :
    (s.gap u (x₀, y₀)).length ≤ (s.gap u (x, y)).length + |x₀ - x| * s.departure u := by
  have hpos := Vec3.length_pos hu
  rcases eq_or_ne (s.gap u (x₀, y₀)) 0 with hzero | hne
  · rw [hzero, Vec3.length_zero]
    exact add_nonneg (Vec3.length_nonneg _) (mul_nonneg (abs_nonneg _) (s.departure_nonneg u))
  · have hexpand : (s.gap u (x₀, y₀)).lengthSq = (s.gap u (x₀, y₀)).dot (s.gap u (x, y)) +
        (s.gap u (x₀, y₀)).dot (s.span * (x₀ - x)) := by
      have hmoved : s.gap u (x₀, y₀) =
          s.gap u (x, y) + s.span * (x₀ - x) - u.span * (y₀ - y) := by
        refine Vec3.ext ?_ ?_ ?_ <;>
          · simp only [gap, point, Vec3.sub_def, Vec3.add_def, Vec3.mul_def]
            ring
      conv_lhs => rw [Vec3.lengthSq]
      conv_lhs =>
        enter [2]
        rw [hmoved]
      rw [Vec3.dot_sub, Vec3.dot_add, Vec3.dot_mul _ _ (y₀ - y), hfree, zero_mul, sub_zero]
    have hdirect := Vec3.dot_le_length_mul_length (s.gap u (x₀, y₀)) (s.gap u (x, y))
    have hacross : (s.gap u (x₀, y₀)).dot (s.span * (x₀ - x)) ≤
        (s.gap u (x₀, y₀)).length * (|x₀ - x| * s.departure u) := by
      have h := Vec3.dot_mul_length_le hfree hu (s.span * (x₀ - x))
      rw [Vec3.mul_cross, Vec3.length_mul] at h
      rw [departure, ← mul_div_assoc, ← mul_div_assoc, le_div_iff₀ hpos, mul_comm |x₀ - x|]
      exact h
    refine le_of_mul_le_mul_left ?_ (Vec3.length_pos hne)
    rw [Vec3.length_mul_self, mul_add]
    linarith

/-- With the second parameter held, the first one is best where it is stationary. -/
theorem length_gap_le_of_first (h : Stationary ((s.gap u (x₀, y)).dot s.span) x₀)
    (hx : x ∈ Set.Icc (0 : ℝ) 1) : (s.gap u (x₀, y)).length ≤ (s.gap u (x, y)).length := by
  refine length_gap_le ?_
  rw [sub_self, mul_zero, add_zero]
  exact h x hx

/-- With the first parameter held, the second one is best where it is stationary. -/
theorem length_gap_le_of_second (h : Stationary (-(s.gap u (x, y₀)).dot u.span) y₀)
    (hy : y ∈ Set.Icc (0 : ℝ) 1) : (s.gap u (x, y₀)).length ≤ (s.gap u (x, y)).length := by
  refine length_gap_le ?_
  rw [sub_self, mul_zero, zero_add]
  exact h y hy

/-- A linear function that is not positive at zero and not negative at `x` vanishes between. -/
theorem exists_zero_of_le (hx : x ∈ Set.Icc (0 : ℝ) 1) (hf : f ≤ 0) (hpos : 0 ≤ b * x + f) :
    ∃ x₀ ∈ Set.Icc (0 : ℝ) 1, |x₀ - x| ≤ 1 ∧ b * x₀ + f = 0 := by
  have hcont : ContinuousOn (fun t : ℝ => b * t + f) (Set.Icc 0 x) := by fun_prop
  have hzero : (0 : ℝ) ∈ Set.Icc (b * 0 + f) (b * x + f) := by
    rw [mul_zero, zero_add]
    exact ⟨hf, hpos⟩
  obtain ⟨x₀, ⟨hlow, hhigh⟩, hroot⟩ := intermediate_value_Icc hx.1 hcont hzero
  refine ⟨x₀, ⟨hlow, hhigh.trans hx.2⟩, ?_, hroot⟩
  rw [abs_le]
  exact ⟨by linarith [hx.2], by linarith⟩

/-- The first parameter follows the second one to an end `y₀` of its interval, to which the second
one is drawn while the first one is zero.  Then no points are closer than the ones that are found,
but for the departure. -/
theorem length_gap_le_of_end (hu : u.span ≠ 0) (hx₀ : Stationary ((s.gap u (x₀, y₀)).dot s.span) x₀)
    (hx : x ∈ Set.Icc (0 : ℝ) 1) (hy : y ∈ Set.Icc (0 : ℝ) 1)
    (hend : Stationary (-(s.gap u (x, y₀)).dot u.span) y₀ ∨
      ∃ x₁ ∈ Set.Icc (0 : ℝ) 1, |x₁ - x| ≤ 1 ∧ (s.gap u (x₁, y₀)).dot u.span = 0) :
    (s.gap u (x₀, y₀)).length ≤ (s.gap u (x, y)).length + s.departure u := by
  have hdeparture := s.departure_nonneg u
  rcases hend with hend | ⟨x₁, hx₁, hnear, hfree⟩
  · have hfirst := length_gap_le_of_first hx₀ hx
    have hsecond := length_gap_le_of_second hend hy
    linarith
  · have hfirst := length_gap_le_of_first hx₀ hx₁
    have hline := length_gap_le_of_free (x := x) (y := y) hu hfree
    have hshort := mul_le_mul_of_nonneg_right hnear hdeparture
    linarith

theorem length_gap_nearestParams_le (hs : Scalar.tolerance < s.span.lengthSq)
    (hu : Scalar.tolerance < u.span.lengthSq)
    (hcross : (s.span.cross u.span).lengthSq ≤ Scalar.tolerance)
    (hx : x ∈ Set.Icc (0 : ℝ) 1) (hy : y ∈ Set.Icc (0 : ℝ) 1) :
    (s.gap u (s.nearestParams u)).length ≤ (s.gap u (x, y)).length + s.departure u := by
  have hu' : u.span ≠ 0 := by
    intro hzero
    rw [Vec3.lengthSq_eq_zero_iff.2 hzero] at hu
    exact Scalar.tolerance_pos.not_gt hu
  have ha : 0 < s.span.lengthSq := Scalar.tolerance_pos.trans hs
  have he : 0 < u.span.lengthSq := Scalar.tolerance_pos.trans hu
  rw [Vec3.lengthSq_cross] at hcross
  have hroot : ∀ x₁ y₁, u.span.lengthSq * y₁ =
      s.span.dot u.span * x₁ + u.span.dot (s.start - u.start) →
      (s.gap u (x₁, y₁)).dot u.span = 0 := by
    intro x₁ y₁ h
    rw [← neg_eq_zero, neg_gap_dot_span, h, sub_self]
  unfold nearestParams
  extract_lets d₁ d₂ r a e f c b denom t₁ t₂
  have ht₁ : t₁ = 0 := if_neg hcross.not_gt
  have ht₂ : t₂ = f / e := by
    unfold t₂
    rw [ht₁, mul_zero, zero_add]
  rw [if_neg hs.not_ge, if_neg hu.not_ge, ht₁, ht₂]
  split
  next hbelow =>
    have hf : f < 0 := by
      rw [← zero_mul e]
      exact (div_lt_iff₀ he).1 hbelow
    refine length_gap_le_of_end hu' ?_ hx hy ?_
    · rw [gap_dot_span, mul_zero, sub_zero, ← sub_neg_eq_add]
      exact .clamp ha (-c)
    · rw [neg_gap_dot_span, mul_zero, zero_sub]
      rcases le_total (b * x + f) 0 with hout | hin
      · exact .inl (.at_zero (neg_nonneg.2 hout))
      · obtain ⟨x₁, hx₁, hnear, hzero⟩ := exists_zero_of_le hx hf.le hin
        exact .inr ⟨x₁, hx₁, hnear, hroot x₁ 0 (by rw [mul_zero]; exact hzero.symm)⟩
  next =>
    split
    next habove =>
      have hf : e - f ≤ 0 := sub_nonpos.2 ((one_lt_div he).1 habove).le
      refine length_gap_le_of_end hu' ?_ hx hy ?_
      · have hslope : ∀ y : ℝ, a * y - b * 1 + c = a * y - (b - c) := fun y => by ring
        rw [gap_dot_span, hslope]
        exact .clamp ha (b - c)
      · rw [neg_gap_dot_span, mul_one]
        rcases le_total 0 (-b * x + (e - f)) with hin | hout
        · obtain ⟨x₁, hx₁, hnear, hzero⟩ := exists_zero_of_le hx hf hin
          exact .inr ⟨x₁, hx₁, hnear, hroot x₁ 1 (by linarith)⟩
        · exact .inl (.at_one (by linarith))
    next =>
      have hfree := hroot 0 (f / e) (by rw [mul_zero, zero_add]; exact mul_div_cancel₀ f he.ne')
      have hline := length_gap_le_of_free (x := x) (y := y) hu' hfree
      have hnear : |0 - x| ≤ 1 := by
        rw [zero_sub, abs_neg, abs_of_nonneg hx.1]
        exact hx.2
      have hshort := mul_le_mul_of_nonneg_right hnear (s.departure_nonneg u)
      linarith

/-- How much farther from each other the points that are found can be than the nearest ones. -/
noncomputable def misfit (s u : Segment ℝ) : ℝ :=
  if Scalar.tolerance < (s.span.cross u.span).lengthSq then 0 else s.departure u

theorem misfit_eq_zero (h : Scalar.tolerance < (s.span.cross u.span).lengthSq ∨
    s.span.cross u.span = 0) : s.misfit u = 0 := by
  unfold misfit
  split
  next => rfl
  next hnot =>
    rcases h with h | h
    · exact absurd h hnot
    · rw [departure, h, Vec3.length_zero, zero_div]

/-- **The points that are found are nearest but for the misfit.** -/
theorem distance_nearestPoints_le (hs : Scalar.tolerance < s.span.lengthSq)
    (hu : Scalar.tolerance < u.span.lengthSq) {p q : Vec3 ℝ} (hp : s.Contains p)
    (hq : u.Contains q) :
    (s.nearestPoints u).1.distance (s.nearestPoints u).2 ≤ p.distance q + s.misfit u := by
  obtain ⟨x, hx, rfl⟩ := hp
  obtain ⟨y, hy, rfl⟩ := hq
  change (s.gap u (s.nearestParams u)).length ≤ (s.gap u (x, y)).length + s.misfit u
  unfold misfit
  split
  next hcross =>
    rw [add_zero]
    exact (balanced_nearestParams_of_proper hs hu (.inl hcross)).length_gap_le ⟨hx, hy⟩
  next hcross => exact length_gap_nearestParams_le hs hu (not_lt.1 hcross) hx hy

/-- Points of the two segments are closer to each other than `d`. -/
def Within (s u : Segment ℝ) (d : ℝ) : Prop := ∃ p q, s.Contains p ∧ u.Contains q ∧ p.distance q < d

end Segment

/-! ### Capsules -/

theorem Ball.overlapBall?_of_meets {a b : Ball ℝ} (h : a.Meets b) : (a.overlapBall? b).isSome := by
  have hnear : (b.center - a.center).lengthSq < (a.radius + b.radius) * (a.radius + b.radius) := by
    rw [← Vec3.length_mul_self]
    rw [Meets, Vec3.distance_comm] at h
    exact mul_self_lt_mul_self (Vec3.length_nonneg _) h
  unfold overlapBall?
  dsimp only
  rw [if_neg hnear.not_ge]
  rfl

/-- The solid is a capsule of radius `r` around `core`, whose squared length is above the
tolerance. -/
structure Solid.Surrounds (a : Solid ℝ) (core : Segment ℝ) (r : ℝ) : Prop where
  shape : ∃ h, a.form = .capsule r h ∧ core = capsuleCore h a.position a.rotation
  radius_nonneg : 0 ≤ r
  long : Scalar.tolerance < core.span.lengthSq

/-- Capsules are found to overlap where the points that are found on their cores are closer to each
other than the sum of their radii. -/
theorem Solid.overlap?_isSome_iff {a b : Solid ℝ} {s u : Segment ℝ} {r k : ℝ}
    (ha : a.Surrounds s r) (hb : b.Surrounds u k) : (a.overlap? b).isSome ↔
      (s.nearestPoints u).1.distance (s.nearestPoints u).2 < r + k := by
  obtain ⟨h, hform, rfl⟩ := ha.shape
  obtain ⟨l, hform', rfl⟩ := hb.shape
  have hreach : 0 ≤ r + k := add_nonneg ha.radius_nonneg hb.radius_nonneg
  simp only [overlap?, nearestBalls?, hform, hform', Option.bind_some]
  constructor
  · exact Ball.meets_of_overlapBall? hreach
  · intro hnear
    exact Ball.overlapBall?_of_meets hnear

/-! ### Capsules of a world -/

/-- A collision of `x` with `y` was kept, and nothing else changed. -/
def CollisionBuffer.Keeps (list : CollisionBuffer ℝ) (x y : ShapeId)
    (offered : Bool × CollisionBuffer ℝ) : Prop :=
  offered.1 = true ∧
    ∃ o : Overlap ℝ, offered.2 = { list with items := list.items.push ⟨o, x, some y⟩ }

theorem CollisionBuffer.keeps_iff {list : CollisionBuffer ℝ} {shapes : Shapes ℝ} {x y : ShapeId}
    (hroom : list.room ≠ 0) : list.Keeps x y (list.offerAll (shapes.collision? x y).toList) ↔
      (shapes.collision? x y).isSome := by
  cases hfound : shapes.collision? x y with
  | none => simp [Keeps, offerAll]
  | some c =>
    obtain ⟨hfirst, hsecond, -⟩ := Shapes.collision?_eq_some hfound
    have hsame : c = ⟨c.toOverlap, x, some y⟩ := by
      rw [← hfirst, ← hsecond]
    have hoffered : list.offerAll (some c).toList =
        (true, { list with items := list.items.push c }) := by
      simp [offerAll, offer_of_room hroom]
    rw [hoffered]
    refine iff_of_true ⟨rfl, c.toOverlap, ?_⟩ rfl
    rw [← hsame]

namespace Shapes

variable {shapes : Shapes ℝ} {x y : ShapeId} {a b : Shape ℝ}

theorem isSome_collision?_iff (hne : x ≠ y) (hx : shapes.find? x = some a)
    (hy : shapes.find? y = some b) :
    (shapes.collision? x y).isSome ↔ (a.toSolid.overlap? b.toSolid).isSome := by
  rw [collision?_of_find? hne hx hy, Option.isSome_map]

/-- **Which capsules are found to overlap.**  A buffer with room keeps a collision of two capsules,
or nothing changes.  A collision that is kept is real: the cores are closer to each other than the
sum of the radii.  It is kept if they are so by more than the misfit of the cores; and the misfit is
zero if the cores are parallel, or differ in direction by more than the tolerance. -/
theorem capsules_detected {list : CollisionBuffer ℝ} {s u : Segment ℝ} {r k : ℝ} (hne : x ≠ y)
    (hx : shapes.find? x = some a) (hy : shapes.find? y = some b)
    (ha : a.toSolid.Surrounds s r) (hb : b.toSolid.Surrounds u k) (hroom : list.room ≠ 0) :
    let offered := list.offerAll (shapes.collision? x y).toList
    (list.Keeps x y offered ∨ offered = (false, list)) ∧
    (list.Keeps x y offered → s.Within u (r + k)) ∧
    (s.Within u (r + k - s.misfit u) → list.Keeps x y offered) ∧
    (Scalar.tolerance <
        s.span.lengthSq * u.span.lengthSq - s.span.dot u.span * s.span.dot u.span ∨
      s.span.cross u.span = 0 →
      s.misfit u = 0 ∧ (list.Keeps x y offered ↔ s.Within u (r + k))) := by
  intro offered
  have hkeeps : list.Keeps x y offered ↔
      (s.nearestPoints u).1.distance (s.nearestPoints u).2 < r + k := by
    rw [CollisionBuffer.keeps_iff hroom, isSome_collision?_iff hne hx hy,
      Solid.overlap?_isSome_iff ha hb]
  have hreal : list.Keeps x y offered → s.Within u (r + k) := by
    intro hkept
    have hpoints := s.contains_nearestPoints u
    exact ⟨_, _, hpoints.1, hpoints.2, hkeeps.1 hkept⟩
  have hfound : s.Within u (r + k - s.misfit u) → list.Keeps x y offered := by
    rintro ⟨p, q, hp, hq, hnear⟩
    have hbound := Segment.distance_nearestPoints_le ha.long hb.long hp hq
    rw [hkeeps]
    linarith
  refine ⟨?_, hreal, hfound, ?_⟩
  · by_cases hsome : (shapes.collision? x y).isSome
    · exact .inl ((CollisionBuffer.keeps_iff hroom).2 hsome)
    · refine .inr ?_
      rw [Option.not_isSome_iff_eq_none] at hsome
      simp only [offered, hsome]
      rfl
  · intro hcross
    rw [← Vec3.lengthSq_cross] at hcross
    have hexact := Segment.misfit_eq_zero hcross
    rw [hexact, sub_zero] at hfound
    exact ⟨hexact, hreal, hfound⟩

/-! ### Two capsules that cross -/

noncomputable def uprightCore (halfHeight : ℝ) : Segment ℝ :=
  ⟨⟨0, -halfHeight, 0⟩, ⟨0, halfHeight, 0⟩⟩

/-- A segment along the third axis, a little beside the origin. -/
noncomputable def levelCore (halfHeight beside : ℝ) : Segment ℝ :=
  ⟨⟨beside, 0, -halfHeight⟩, ⟨beside, 0, halfHeight⟩⟩

noncomputable def uprightLimb (radius halfHeight : ℝ) : Shape ℝ :=
  .ofForm (.capsule radius halfHeight) 1

noncomputable def levelLimb (radius halfHeight beside : ℝ) : Shape ℝ :=
  { uprightLimb radius halfHeight with
    position := ⟨beside, 0, 0⟩
    rotation := ⟨0.5, 0.5, 0.5, 0.5⟩ }

noncomputable def crossing (radius halfHeight beside : ℝ) : Shapes ℝ :=
  ⟨#[uprightLimb radius halfHeight, levelLimb radius halfHeight beside]⟩

section Crossing

variable {r h d : ℝ}

theorem find?_crossing_upright : (crossing r h d).find? ⟨0⟩ = some (uprightLimb r h) := rfl

theorem find?_crossing_level : (crossing r h d).find? ⟨1⟩ = some (levelLimb r h d) := rfl

theorem lengthSq_span_uprightCore : (uprightCore h).span.lengthSq = 4 * h * h := by
  simp only [uprightCore, Segment.span, Vec3.lengthSq, Vec3.dot, Vec3.sub_def]
  ring

theorem lengthSq_span_levelCore : (levelCore h d).span.lengthSq = 4 * h * h := by
  simp only [levelCore, Segment.span, Vec3.lengthSq, Vec3.dot, Vec3.sub_def]
  ring

theorem dot_span_crossing : (uprightCore h).span.dot (levelCore h d).span = 0 := by
  simp [uprightCore, levelCore, Segment.span, Vec3.dot, Vec3.sub_def]

theorem surrounds_uprightLimb (hr : 0 ≤ r) (hh : Scalar.tolerance < 4 * h * h) :
    (uprightLimb r h).toSolid.Surrounds (uprightCore h) r := by
  refine ⟨⟨h, rfl, ?_⟩, hr, lt_of_lt_of_eq hh lengthSq_span_uprightCore.symm⟩
  simp [uprightCore, uprightLimb, Shape.ofForm, capsuleCore, Rotation.identity, Rotation.apply,
    Rotation.axis, Vec3.up, Vec3.dot, Vec3.cross, Vec3.zero_def, Vec3.mul_def, Vec3.add_def,
    Vec3.sub_def]

theorem surrounds_levelLimb (hr : 0 ≤ r) (hh : Scalar.tolerance < 4 * h * h) :
    (levelLimb r h d).toSolid.Surrounds (levelCore h d) r := by
  refine ⟨⟨h, rfl, ?_⟩, hr, lt_of_lt_of_eq hh lengthSq_span_levelCore.symm⟩
  norm_num [levelCore, levelLimb, uprightLimb, Shape.ofForm, capsuleCore, Rotation.apply,
    Rotation.axis, Vec3.up, Vec3.dot, Vec3.cross, Vec3.mul_def, Vec3.add_def, Vec3.sub_def]

theorem within_crossing (hd : 0 ≤ d) (hr : d < r + r) :
    (uprightCore h).Within (levelCore h d) (r + r) := by
  have hhalf : (1 / 2 : ℝ) ∈ Set.Icc (0 : ℝ) 1 := by norm_num
  refine ⟨⟨0, 0, 0⟩, ⟨d, 0, 0⟩, ⟨1 / 2, hhalf, ?_⟩, ⟨1 / 2, hhalf, ?_⟩, lt_of_eq_of_lt ?_ hr⟩
  · refine Vec3.ext ?_ ?_ ?_ <;>
      · simp only [uprightCore, Segment.point, Segment.span, Vec3.add_def, Vec3.sub_def,
          Vec3.mul_def]
        ring
  · refine Vec3.ext ?_ ?_ ?_ <;>
      · simp only [levelCore, Segment.point, Segment.span, Vec3.add_def, Vec3.sub_def, Vec3.mul_def]
        ring
  · simp [Vec3.distance, Vec3.length, Vec3.lengthSq, Vec3.dot, Vec3.sub_def, Scalar.sqrt_real,
      Real.sqrt_mul_self hd]

end Crossing

/-- Two crossing capsules of the size of an arm are found to overlap. -/
theorem capsules_detected_of_arms :
    (uprightLimb (1 / 8) (1 / 4)).toSolid.Surrounds (uprightCore (1 / 4)) (1 / 8) ∧
    (levelLimb (1 / 8) (1 / 4) (1 / 16)).toSolid.Surrounds (levelCore (1 / 4) (1 / 16)) (1 / 8) ∧
    (uprightCore (1 / 4)).Within (levelCore (1 / 4) (1 / 16)) (1 / 8 + 1 / 8) ∧
    (CollisionBuffer.ofCapacity 8 : CollisionBuffer ℝ).room ≠ 0 ∧
    CollisionBuffer.Keeps (.ofCapacity 8) ⟨0⟩ ⟨1⟩ ((CollisionBuffer.ofCapacity 8).offerAll
      ((crossing (1 / 8) (1 / 4) (1 / 16)).collision? ⟨0⟩ ⟨1⟩).toList) := by
  have hlong : Scalar.tolerance < 4 * (1 / 4) * (1 / 4 : ℝ) := by norm_num [Scalar.tolerance]
  have hs := surrounds_uprightLimb (r := 1 / 8) (by norm_num) hlong
  have hu := surrounds_levelLimb (r := 1 / 8) (d := 1 / 16) (by norm_num) hlong
  have hnear := within_crossing (r := 1 / 8) (h := 1 / 4) (d := 1 / 16) (by norm_num) (by norm_num)
  have hroom : (CollisionBuffer.ofCapacity 8 : CollisionBuffer ℝ).room ≠ 0 := by decide
  have hskew : Scalar.tolerance <
      (uprightCore (1 / 4)).span.lengthSq * (levelCore (1 / 4) (1 / 16)).span.lengthSq -
        (uprightCore (1 / 4)).span.dot (levelCore (1 / 4) (1 / 16)).span *
          (uprightCore (1 / 4)).span.dot (levelCore (1 / 4) (1 / 16)).span := by
    rw [lengthSq_span_uprightCore, lengthSq_span_levelCore, dot_span_crossing]
    norm_num [Scalar.tolerance]
  have hne : (⟨0⟩ : ShapeId) ≠ ⟨1⟩ := by decide
  have hupright := find?_crossing_upright (r := 1 / 8) (h := 1 / 4) (d := 1 / 16)
  have hdetected := capsules_detected hne hupright find?_crossing_level hs hu hroom
  exact ⟨hs, hu, hnear, hroom, (hdetected.2.2.2 (.inl hskew)).2.2 hnear⟩

/-- Cores of the size of a finger bone are treated as parallel, so that the upright one is left at
its start. -/
theorem nearestPoints_fingers :
    (uprightCore (1 / 64)).nearestPoints (levelCore (1 / 64) (1 / 512)) =
      (⟨0, -1 / 64, 0⟩, ⟨1 / 512, 0, 0⟩) := by
  norm_num [Segment.nearestPoints, Segment.nearestParams, uprightCore, levelCore, Segment.span,
    Segment.point, Vec3.lengthSq, Vec3.dot, Vec3.sub_def, Vec3.add_def, Vec3.mul_def,
    Scalar.tolerance, Scalar.clamp]

/-- **Two short capsules that cross are missed.**  Their rotations have unit length, and their cores
cross at right angles, closer to each other than the sum of the radii. -/
theorem crossing_missed :
    (uprightLimb (1 / 256) (1 / 64)).rotation.IsUnit ∧
    (levelLimb (1 / 256) (1 / 64) (1 / 512)).rotation.IsUnit ∧
    (uprightLimb (1 / 256) (1 / 64)).toSolid.Surrounds (uprightCore (1 / 64)) (1 / 256) ∧
    (levelLimb (1 / 256) (1 / 64) (1 / 512)).toSolid.Surrounds (levelCore (1 / 64) (1 / 512))
      (1 / 256) ∧
    (uprightCore (1 / 64)).span.dot (levelCore (1 / 64) (1 / 512)).span = 0 ∧
    (uprightCore (1 / 64)).Within (levelCore (1 / 64) (1 / 512)) (1 / 256 + 1 / 256) ∧
    (CollisionBuffer.ofCapacity 8).offerAll
      ((crossing (1 / 256) (1 / 64) (1 / 512)).collision? ⟨0⟩ ⟨1⟩).toList =
        (false, .ofCapacity 8) := by
  have hlong : Scalar.tolerance < 4 * (1 / 64) * (1 / 64 : ℝ) := by norm_num [Scalar.tolerance]
  have hs := surrounds_uprightLimb (r := 1 / 256) (by norm_num) hlong
  have hu := surrounds_levelLimb (r := 1 / 256) (d := 1 / 512) (by norm_num) hlong
  refine ⟨?_, ?_, hs, hu, dot_span_crossing, within_crossing (by norm_num) (by norm_num), ?_⟩
  · norm_num [Rotation.IsUnit, uprightLimb, Shape.ofForm, Rotation.identity]
  · norm_num [Rotation.IsUnit, levelLimb]
  · have hfar : ¬ Vec3.distance (⟨0, -1 / 64, 0⟩ : Vec3 ℝ) ⟨1 / 512, 0, 0⟩ < 1 / 256 + 1 / 256 := by
      refine not_lt.2 (Real.le_sqrt_of_sq_le ?_)
      norm_num [Vec3.lengthSq, Vec3.dot, Vec3.sub_def]
    have hmissed : ¬ ((crossing (1 / 256) (1 / 64) (1 / 512)).collision? ⟨0⟩ ⟨1⟩).isSome := by
      rw [isSome_collision?_iff (by decide) find?_crossing_upright find?_crossing_level,
        Solid.overlap?_isSome_iff hs hu, nearestPoints_fingers]
      exact hfar
    rw [Option.not_isSome_iff_eq_none.1 hmissed]
    rfl

end Shapes

end RagdollDynamics
