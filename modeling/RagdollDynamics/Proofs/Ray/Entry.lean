import Mathlib.Topology.Order.IntermediateValue
import Mathlib.Topology.Algebra.Ring.Real
import RagdollDynamics.Geometry.RayCast
import RagdollDynamics.Proofs.Exact.Points

/-!
# Where a ray enters a solid

In exact arithmetic a ray that starts outside a sphere or a capsule is reported to hit it where it
enters it (`Ray.Enters`).  A point of a capsule lies in one of its two end balls or in the tube
between them, whose entry is the first root of a quadratic function.  The tube is cut at its ends:
where the ray comes into the full tube beyond an end, it goes through the ball there before it can
come between the ends (`Segment.exists_end_of_crossing`).
-/

namespace RagdollDynamics

/-! ### First roots -/

/-- Where `a * t * t + 2 * b * t + c` first vanishes. -/
noncomputable def firstRoot (a b c : ℝ) : ℝ := (-b - Real.sqrt (b * b - a * c)) / a

section FirstRoot

variable {a b c k s t x : ℝ}

theorem mul_firstRoot (ha : a ≠ 0) : a * firstRoot a b c + b = -Real.sqrt (b * b - a * c) := by
  rw [firstRoot, mul_div_cancel₀ _ ha]
  ring

theorem quadratic_firstRoot (ha : a ≠ 0) (hd : 0 ≤ b * b - a * c) :
    a * firstRoot a b c * firstRoot a b c + 2 * b * firstRoot a b c + c = 0 := by
  have hsquare := congrArg (fun y => y * y) (mul_firstRoot (b := b) (c := c) ha)
  simp only [neg_mul_neg, Real.mul_self_sqrt hd] at hsquare
  refine mul_left_cancel₀ ha ?_
  linear_combination hsquare

theorem firstRoot_le (ha : 0 < a) (h : a * t * t + 2 * b * t + c ≤ 0) :
    0 ≤ b * b - a * c ∧ firstRoot a b c ≤ t := by
  have hsquare : (a * t + b) ^ 2 ≤ b * b - a * c := by
    have hscaled := mul_nonpos_of_nonneg_of_nonpos ha.le h
    linarith only [hscaled, show (a * t + b) ^ 2 =
      a * (a * t * t + 2 * b * t + c) + (b * b - a * c) by ring]
  have hroot := (abs_le.1 (Real.abs_le_sqrt hsquare)).1
  refine ⟨(sq_nonneg _).trans hsquare, le_of_mul_le_mul_left ?_ ha⟩
  linarith only [hroot, mul_firstRoot (b := b) (c := c) ha.ne']

theorem firstRoot_nonneg (ha : 0 < a) (hb : b ≤ 0) (hc : 0 ≤ c) : 0 ≤ firstRoot a b c := by
  have hroot : Real.sqrt (b * b - a * c) ≤ -b :=
    Real.sqrt_le_iff.2 ⟨neg_nonneg.2 hb, by linarith only [mul_nonneg ha.le hc, neg_sq b, sq b]⟩
  exact div_nonneg (sub_nonneg.2 hroot) ha.le

/-- A function that starts positive and is not positive later starts to fall. -/
theorem slope_nonpos (ha : 0 ≤ a) (hc : 0 < c) (ht : 0 ≤ t) (h : a * t * t + 2 * b * t + c ≤ 0) :
    b ≤ 0 := by
  by_contra hb
  have hsquare := mul_nonneg (mul_nonneg ha ht) ht
  have hlinear := mul_nonneg (mul_nonneg zero_le_two (not_le.1 hb).le) ht
  linarith

/-- Between two places where it is at most `k` a convex function is at most `k`. -/
theorem quadratic_le_of_between (ha : 0 ≤ a) (hsx : s ≤ x) (hxt : x ≤ t)
    (hs : a * s * s + 2 * b * s + c ≤ k) (ht : a * t * t + 2 * b * t + c ≤ k) :
    a * x * x + 2 * b * x + c ≤ k := by
  rcases hsx.eq_or_lt with rfl | hlt
  · exact hs
  · refine le_of_mul_le_mul_left ?_ (sub_pos.2 (hlt.trans_le hxt))
    have hbelow := mul_nonneg (mul_nonneg ha (sub_nonneg.2 hsx))
      (mul_nonneg (sub_nonneg.2 hxt) (sub_nonneg.2 (hsx.trans hxt)))
    have hleft := mul_le_mul_of_nonneg_left hs (sub_nonneg.2 hxt)
    have hright := mul_le_mul_of_nonneg_left ht (sub_nonneg.2 hsx)
    linarith only [hbelow, hleft, hright,
      show (t - s) * (a * x * x + 2 * b * x + c) = (t - x) * (a * s * s + 2 * b * s + c) +
        (x - s) * (a * t * t + 2 * b * t + c) - a * (x - s) * ((t - x) * (t - s)) by ring]

end FirstRoot

namespace Vec3

variable {d m v : Vec3 ℝ}

theorem lengthSq_add_mul (m v : Vec3 ℝ) (t : ℝ) :
    (m + v * t).lengthSq = v.lengthSq * t * t + 2 * m.dot v * t + m.lengthSq := by
  rw [lengthSq_add, dot_mul, lengthSq_mul]
  ring

/-- The direction of a vector that does not point along `d` does not either. -/
theorem facing_directionOr (hd : d.lengthSq = 1) (h : v.dot d ≤ 0) :
    (v.directionOr (-d)).lengthSq = 1 ∧ (v.directionOr (-d)).dot d ≤ 0 := by
  refine ⟨lengthSq_directionOr (by rw [lengthSq_neg, hd]) v, ?_⟩
  by_cases hv : v = 0
  · rw [hv, zero_directionOr, neg_dot, ← lengthSq, hd]
    exact neg_nonpos.2 zero_le_one
  · rw [directionOr_of_ne_zero hv, mul_dot]
    exact mul_nonpos_of_nonpos_of_nonneg h (one_div_pos.2 (length_pos hv)).le

end Vec3

/-! ### Entries -/

namespace Ray

variable {r : Ray ℝ} {P Q : Vec3 ℝ → Prop} {o : Option (RayHit ℝ)} {g : RayHit ℝ} {t : ℝ}

/-- The hit is at a point of the region that is not behind the origin, and its normal is a unit
vector turned against the ray. -/
structure Lands (r : Ray ℝ) (P : Vec3 ℝ → Prop) (g : RayHit ℝ) : Prop where
  ahead : 0 ≤ g.distance
  mem : P (r.point g.distance)
  unit : g.normal.lengthSq = 1
  facing : g.normal.dot r.direction ≤ 0

/-- What is reported, if anything, is where the ray first meets the region. -/
structure Enters (r : Ray ℝ) (P : Vec3 ℝ → Prop) (o : Option (RayHit ℝ)) : Prop where
  lands : ∀ g, o = some g → r.Lands P g
  first : ∀ t, 0 ≤ t → P (r.point t) → ∃ g, o = some g ∧ g.distance ≤ t

theorem Lands.mono (h : r.Lands P g) (hPQ : ∀ p, P p → Q p) : r.Lands Q g :=
  ⟨h.ahead, hPQ _ h.mem, h.unit, h.facing⟩

theorem Enters.isSome_iff (h : r.Enters P o) : o.isSome ↔ ∃ t, 0 ≤ t ∧ P (r.point t) := by
  rw [Option.isSome_iff_exists]
  constructor
  · rintro ⟨g, hg⟩
    exact ⟨g.distance, (h.lands g hg).ahead, (h.lands g hg).mem⟩
  · rintro ⟨t, ht, hmem⟩
    obtain ⟨g, hg, -⟩ := h.first t ht hmem
    exact ⟨g, hg⟩

theorem Enters.isLeast (h : r.Enters P o) (hg : o = some g) :
    IsLeast {t | 0 ≤ t ∧ P (r.point t)} g.distance := by
  refine ⟨⟨(h.lands g hg).ahead, (h.lands g hg).mem⟩, ?_⟩
  rintro t ⟨ht, hmem⟩
  obtain ⟨g', hg', hle⟩ := h.first t ht hmem
  rwa [Option.some.inj (hg.symm.trans hg')]

end Ray

namespace RayHit

variable {x y : Option (RayHit ℝ)} {g : RayHit ℝ} {t : ℝ}

theorem eq_or_eq_of_nearer (h : nearer x y = some g) : x = some g ∨ y = some g := by
  rcases x with _ | a <;> rcases y with _ | b <;> simp only [nearer] at h
  · cases h
  · exact .inr h
  · exact .inl h
  · split at h
    · exact .inr h
    · exact .inl h

theorem exists_nearer_le
    (h : (∃ g, x = some g ∧ g.distance ≤ t) ∨ ∃ g, y = some g ∧ g.distance ≤ t) :
    ∃ g, nearer x y = some g ∧ g.distance ≤ t := by
  rcases x with _ | a <;> rcases y with _ | b <;> simp only [nearer]
  · simp at h
  · simpa using h
  · simpa using h
  · refine ⟨_, rfl, ?_⟩
    simp only [Option.some.injEq, exists_eq_left'] at h
    split
    next hlt => exact h.elim hlt.le.trans id
    next hge => exact h.elim id (not_lt.1 hge).trans

end RayHit

/-! ### Balls -/

namespace Ray

variable {r : Ray ℝ} {ball : Ball ℝ} {g : RayHit ℝ} {t : ℝ}

theorem point_sub (r : Ray ℝ) (t : ℝ) (c : Vec3 ℝ) :
    r.point t - c = r.origin - c + r.direction * t := by
  refine Vec3.ext ?_ ?_ ?_ <;>
    · simp only [point, Vec3.add_def, Vec3.sub_def, Vec3.mul_def]
      ring

theorem point_zero (r : Ray ℝ) : r.point 0 = r.origin := by
  refine Vec3.ext ?_ ?_ ?_ <;> simp [point, Vec3.add_def, Vec3.mul_def]

theorem holds_point_iff (hd : r.direction.lengthSq = 1) (hr : 0 ≤ ball.radius) :
    ball.Holds (r.point t) ↔ 1 * t * t + 2 * (r.origin - ball.center).dot r.direction * t +
      ((r.origin - ball.center).lengthSq - ball.radius * ball.radius) ≤ 0 := by
  rw [Ball.holds_iff hr, point_sub, Vec3.lengthSq_add_mul, hd, ← add_sub_assoc, sub_nonpos]

/-- When the line through the ray comes into the ball. -/
noncomputable def ballEntry (r : Ray ℝ) (ball : Ball ℝ) : ℝ :=
  firstRoot 1 ((r.origin - ball.center).dot r.direction)
    ((r.origin - ball.center).lengthSq - ball.radius * ball.radius)

/-- Whether the line through the ray comes into the ball at all. -/
def LineMeets (r : Ray ℝ) (ball : Ball ℝ) : Prop :=
  0 ≤ (r.origin - ball.center).dot r.direction * (r.origin - ball.center).dot r.direction -
    1 * ((r.origin - ball.center).lengthSq - ball.radius * ball.radius)

theorem hitBall?_eq_some_iff : r.hitBall? ball = some g ↔
    ¬(0 < (r.origin - ball.center).lengthSq - ball.radius * ball.radius ∧
      0 < (r.origin - ball.center).dot r.direction) ∧
    r.LineMeets ball ∧ 0 ≤ r.ballEntry ball ∧
    ⟨r.ballEntry ball, (r.point (r.ballEntry ball) - ball.center).directionOr (-r.direction)⟩ =
      g := by
  unfold hitBall?
  simp only [Option.ite_none_left_eq_some, Option.some.injEq, not_lt, LineMeets, ballEntry,
    firstRoot, one_mul, div_one, Scalar.sqrt_real]

theorem lengthSq_ballEntry (hd : r.direction.lengthSq = 1) (h : r.LineMeets ball) :
    (r.point (r.ballEntry ball) - ball.center).lengthSq = ball.radius * ball.radius := by
  rw [point_sub, Vec3.lengthSq_add_mul, hd]
  have hroot := quadratic_firstRoot one_ne_zero h
  rw [← ballEntry, ← add_sub_assoc, sub_eq_zero] at hroot
  exact hroot

/-- What is reported of a ball is an entry into it. -/
theorem lands_hitBall? (hd : r.direction.lengthSq = 1) (hr : 0 ≤ ball.radius)
    (h : r.hitBall? ball = some g) : r.Lands ball.Holds g := by
  obtain ⟨-, hmeets, hahead, rfl⟩ := hitBall?_eq_some_iff.1 h
  have hturned : (r.point (r.ballEntry ball) - ball.center).dot r.direction ≤ 0 := by
    have hslope : (r.point (r.ballEntry ball) - ball.center).dot r.direction =
        1 * r.ballEntry ball + (r.origin - ball.center).dot r.direction := by
      rw [point_sub, Vec3.add_dot, Vec3.mul_dot, ← Vec3.lengthSq, hd, add_comm]
    rw [hslope, ballEntry, mul_firstRoot one_ne_zero]
    exact neg_nonpos.2 (Real.sqrt_nonneg _)
  obtain ⟨hunit, hfacing⟩ := Vec3.facing_directionOr hd hturned
  exact ⟨hahead, (Ball.holds_iff hr).2 (lengthSq_ballEntry hd hmeets).le, hunit, hfacing⟩

/-- **A ray from outside enters a ball where it is reported to.** -/
theorem enters_hitBall? (hd : r.direction.lengthSq = 1) (hr : 0 ≤ ball.radius)
    (hout : ¬ball.Holds r.origin) : r.Enters ball.Holds (r.hitBall? ball) := by
  refine ⟨fun g hg => lands_hitBall? hd hr hg, fun t ht hmem => ?_⟩
  rw [holds_point_iff hd hr] at hmem
  have hc : 0 < (r.origin - ball.center).lengthSq - ball.radius * ball.radius :=
    sub_pos.2 (not_le.1 fun h => hout ((Ball.holds_iff hr).2 h))
  have hb : (r.origin - ball.center).dot r.direction ≤ 0 := slope_nonpos zero_le_one hc ht hmem
  obtain ⟨hmeets, hle⟩ := firstRoot_le one_pos hmem
  exact ⟨_, hitBall?_eq_some_iff.2 ⟨fun h => hb.not_gt h.2, hmeets,
    firstRoot_nonneg one_pos hb hc.le, rfl⟩, hle⟩

end Ray

/-! ### Tubes -/

namespace Ray

variable {r : Ray ℝ} {s : Segment ℝ} {k t x y : ℝ}

theorem height_point (r : Ray ℝ) (s : Segment ℝ) (t : ℝ) :
    s.height (r.point t) = s.height r.origin + r.direction.dot s.axis * t := by
  rw [Segment.height, point_sub, Vec3.add_dot, Vec3.mul_dot, Segment.height]

theorem lengthSq_across_point (r : Ray ℝ) (s : Segment ℝ) (t : ℝ) :
    (s.across (r.point t - s.start)).lengthSq =
      (s.across r.direction).lengthSq * t * t +
        2 * (s.across (r.origin - s.start)).dot (s.across r.direction) * t +
        (s.across (r.origin - s.start)).lengthSq := by
  rw [point_sub, Segment.across_add_mul, Vec3.lengthSq_add_mul]

/-- When the ray comes into the full tube around the line through the segment. -/
noncomputable def tubeEntry (r : Ray ℝ) (s : Segment ℝ) (k : ℝ) : ℝ :=
  firstRoot (s.across r.direction).lengthSq
    ((s.across (r.origin - s.start)).dot (s.across r.direction))
    ((s.across (r.origin - s.start)).lengthSq - k * k)

/-- Whether the ray comes into the full tube at all. -/
def ComesIn (r : Ray ℝ) (s : Segment ℝ) (k : ℝ) : Prop :=
  0 ≤ (s.across (r.origin - s.start)).dot (s.across r.direction) *
      (s.across (r.origin - s.start)).dot (s.across r.direction) -
    (s.across r.direction).lengthSq * ((s.across (r.origin - s.start)).lengthSq - k * k)

theorem hitTube?_eq_some_iff {g : RayHit ℝ} : r.hitTube? s k = some g ↔
    Scalar.tolerance < s.span.length ∧ Scalar.tolerance < (s.across r.direction).lengthSq ∧
      r.ComesIn s k ∧ 0 ≤ r.tubeEntry s k ∧
      s.height (r.point (r.tubeEntry s k)) ∈ Set.Icc 0 s.span.length ∧
      ⟨r.tubeEntry s k, (s.across (r.point (r.tubeEntry s k) - s.start)).directionOr
        (-r.direction)⟩ = g := by
  have hfoot : ∀ p : Vec3 ℝ, s.across (p - s.start) = p - (s.start + s.axis * s.height p) :=
    fun p => (sub_add_eq_sub_sub ..).symm
  unfold hitTube?
  simp only [Option.ite_none_right_eq_some, Option.some.injEq, and_assoc, Set.mem_Icc, hfoot]
  rfl

theorem lengthSq_across_tubeEntry (ha : 0 < (s.across r.direction).lengthSq) (h : r.ComesIn s k) :
    (s.across (r.point (r.tubeEntry s k) - s.start)).lengthSq = k * k := by
  rw [lengthSq_across_point]
  have hroot := quadratic_firstRoot ha.ne' h
  rw [← tubeEntry, ← add_sub_assoc, sub_eq_zero] at hroot
  exact hroot

/-- What is reported of the tube is an entry into it. -/
theorem lands_hitTube? (hd : r.direction.lengthSq = 1) (hk : 0 ≤ k) {g : RayHit ℝ}
    (h : r.hitTube? s k = some g) : r.Lands (s.Near k) g := by
  obtain ⟨hlong, ha, hin, hahead, hbetween, rfl⟩ := hitTube?_eq_some_iff.1 h
  have hs := Segment.span_ne_zero hlong
  have hpos := Scalar.tolerance_pos.trans ha
  have hturned : (s.across (r.point (r.tubeEntry s k) - s.start)).dot r.direction ≤ 0 := by
    rw [← Segment.across_dot_across hs, point_sub, Segment.across_add_mul, Vec3.add_dot,
      Vec3.mul_dot, ← Vec3.lengthSq, add_comm, tubeEntry, mul_firstRoot hpos.ne']
    exact neg_nonpos.2 (Real.sqrt_nonneg _)
  obtain ⟨hunit, hfacing⟩ := Vec3.facing_directionOr hd hturned
  refine ⟨hahead, Segment.InTube.near hs hk ⟨hbetween, ?_⟩, hunit, hfacing⟩
  exact (lengthSq_across_tubeEntry hpos hin).le

/-- The ray passes every height between those of two of its points. -/
theorem exists_height_eq {l : ℝ} (hxt : x ≤ t)
    (hl : l ∈ Set.uIcc (s.height (r.point x)) (s.height (r.point t))) :
    ∃ y ∈ Set.Icc x t, s.height (r.point y) = l := by
  have hcontinuous : Continuous fun y => s.height (r.point y) := by
    simp only [height_point]
    exact continuous_const.add (continuous_const.mul continuous_id)
  rw [← Set.uIcc_of_le hxt]
  exact intermediate_value_uIcc hcontinuous.continuousOn hl

/-- **The ray comes between the ends through the ball at an end**: on its way inside the full tube
it passes the height of that end. -/
theorem exists_end_of_crossing (hs : s.span ≠ 0) (hk : 0 ≤ k) (hxt : x ≤ t)
    (hx : (s.across (r.point x - s.start)).lengthSq ≤ k * k)
    (hbeyond : s.height (r.point x) ∉ Set.Icc 0 s.span.length) (ht : s.InTube k (r.point t)) :
    ∃ y ∈ Set.Icc x t,
      Ball.Holds ⟨s.start, k⟩ (r.point y) ∨ Ball.Holds ⟨s.finish, k⟩ (r.point y) := by
  have hinside : ∀ y ∈ Set.Icc x t, (s.across (r.point y - s.start)).lengthSq ≤ k * k := by
    intro y hy
    have hstop := ht.2
    rw [lengthSq_across_point] at hx hstop ⊢
    exact quadratic_le_of_between (Vec3.lengthSq_nonneg _) hy.1 hy.2 hx hstop
  rcases lt_or_ge (s.height (r.point x)) 0 with hbelow | hlow
  · obtain ⟨y, hy, hlevel⟩ := exists_height_eq hxt (Set.mem_uIcc_of_le hbelow.le ht.1.1)
    refine ⟨y, hy, .inl ((Ball.holds_iff hk).2 ?_)⟩
    dsimp only
    rw [s.start_eq_along, Segment.lengthSq_sub_along hs, hlevel, sub_self, mul_zero, add_zero]
    exact hinside y hy
  · have habove : s.span.length < s.height (r.point x) :=
      lt_of_not_ge fun hhigh => hbeyond ⟨hlow, hhigh⟩
    obtain ⟨y, hy, hlevel⟩ := exists_height_eq hxt (Set.mem_uIcc_of_ge ht.1.2 habove.le)
    refine ⟨y, hy, .inr ((Ball.holds_iff hk).2 ?_)⟩
    dsimp only
    rw [Segment.finish_eq_along hs, Segment.lengthSq_sub_along hs, hlevel, sub_self, mul_zero,
      add_zero]
    exact hinside y hy

/-- Before the ray is in the tube, it is in one of the end balls or comes into the tube through its
side. -/
theorem exists_before_inTube (hs : Scalar.tolerance < s.span.length)
    (hslant : (s.across r.direction).lengthSq = 0 ∨
      Scalar.tolerance < (s.across r.direction).lengthSq)
    (hk : 0 ≤ k) (hout : ¬s.Near k r.origin) (h0 : 0 ≤ t) (ht : s.InTube k (r.point t)) :
    (∃ y ∈ Set.Icc 0 t,
      Ball.Holds ⟨s.start, k⟩ (r.point y) ∨ Ball.Holds ⟨s.finish, k⟩ (r.point y)) ∨
    ∃ g, r.hitTube? s k = some g ∧ g.distance ≤ t := by
  have hspan := Segment.span_ne_zero hs
  have hbeyond : ∀ {x}, x ≤ t → (s.across (r.point x - s.start)).lengthSq ≤ k * k →
      s.height (r.point x) ∉ Set.Icc 0 s.span.length → 0 ≤ x → ∃ y ∈ Set.Icc 0 t,
        Ball.Holds ⟨s.start, k⟩ (r.point y) ∨ Ball.Holds ⟨s.finish, k⟩ (r.point y) := by
    intro x hxt hx hbeyond h0x
    obtain ⟨y, hy, hend⟩ := exists_end_of_crossing hspan hk hxt hx hbeyond ht
    exact ⟨y, ⟨h0x.trans hy.1, hy.2⟩, hend⟩
  have hstop := ht.2
  rw [lengthSq_across_point] at hstop
  by_cases hfull : (s.across (r.origin - s.start)).lengthSq ≤ k * k
  -- the ray starts in the full tube, so it starts beyond an end
  · rw [← r.point_zero] at hfull hout
    refine .inl (hbeyond h0 hfull (fun hbetween => hout ?_) le_rfl)
    exact Segment.InTube.near hspan hk ⟨hbetween, hfull⟩
  · rcases hslant with hstraight | hslant
    · rw [hstraight, Vec3.lengthSq_eq_zero_iff.1 hstraight, Vec3.dot_zero] at hstop
      exact absurd (by linarith only [hstop]) hfull
    · have ha := Scalar.tolerance_pos.trans hslant
      have hnegative := sub_nonpos.2 hstop
      rw [add_sub_assoc] at hnegative
      have hc := sub_pos.2 (not_le.1 hfull)
      obtain ⟨hin, hle⟩ := firstRoot_le ha hnegative
      have hahead : 0 ≤ r.tubeEntry s k :=
        firstRoot_nonneg ha (slope_nonpos ha.le hc h0 hnegative) hc.le
      by_cases hbetween : s.height (r.point (r.tubeEntry s k)) ∈ Set.Icc 0 s.span.length
      · exact .inr ⟨_, hitTube?_eq_some_iff.2 ⟨hs, hslant, hin, hahead, hbetween, rfl⟩, hle⟩
      · exact .inl (hbeyond hle (lengthSq_across_tubeEntry ha hin).le hbetween hahead)

/-! ### Capsules -/

/-- Neither the length of the segment nor the square of the ray's slope against it is so small that
it only counts as zero. -/
def Meetable (r : Ray ℝ) (s : Segment ℝ) : Prop :=
  s.span.length = 0 ∨ Scalar.tolerance < s.span.length ∧
    ((s.across r.direction).lengthSq = 0 ∨ Scalar.tolerance < (s.across r.direction).lengthSq)

/-- **A ray from outside enters a capsule where it is reported to.** -/
theorem enters_hitCapsule? (hd : r.direction.lengthSq = 1) (hk : 0 ≤ k)
    (hcore : r.Meetable s) (hout : ¬s.Near k r.origin) :
    r.Enters (s.Near k) (r.hitCapsule? s k) := by
  have hstart : r.Enters (Ball.Holds ⟨s.start, k⟩) (r.hitBall? ⟨s.start, k⟩) :=
    enters_hitBall? hd hk fun h => hout (Segment.near_of_start h)
  have hfinish : r.Enters (Ball.Holds ⟨s.finish, k⟩) (r.hitBall? ⟨s.finish, k⟩) :=
    enters_hitBall? hd hk fun h => hout (Segment.near_of_finish h)
  refine ⟨fun g hg => ?_, fun t h0 ht => ?_⟩
  · rcases RayHit.eq_or_eq_of_nearer hg with hg | hg
    · rcases RayHit.eq_or_eq_of_nearer hg with hg | hg
      · exact (hstart.lands g hg).mono fun _ => Segment.near_of_start
      · exact (hfinish.lands g hg).mono fun _ => Segment.near_of_finish
    · exact lands_hitTube? hd hk hg
  -- once the ray was in an end ball, a hit at least as near is among the candidates
  · have hends : ∀ y ∈ Set.Icc 0 t,
        Ball.Holds ⟨s.start, k⟩ (r.point y) ∨ Ball.Holds ⟨s.finish, k⟩ (r.point y) →
        ∃ g, r.hitCapsule? s k = some g ∧ g.distance ≤ t := by
      intro y hy hend
      refine RayHit.exists_nearer_le (.inl (RayHit.exists_nearer_le ?_))
      refine hend.imp (fun hmem => ?_) fun hmem => ?_
      · obtain ⟨g, hg, hle⟩ := hstart.first y hy.1 hmem
        exact ⟨g, hg, hle.trans hy.2⟩
      · obtain ⟨g, hg, hle⟩ := hfinish.first y hy.1 hmem
        exact ⟨g, hg, hle.trans hy.2⟩
    rcases hcore with hpoint | ⟨hlong, hslant⟩
    · obtain ⟨c, ⟨x, -, rfl⟩, hnear⟩ := ht
      refine hends t ⟨h0, le_rfl⟩ (.inl ?_)
      have hspan : s.span = 0 := by_contra fun hne => (Vec3.length_pos hne).ne' hpoint
      rwa [Segment.point, hspan, Vec3.zero_mul, add_zero] at hnear
    · rcases Segment.Near.cases (Segment.span_ne_zero hlong) hk ht with hmem | hmem | htube
      · exact hends t ⟨h0, le_rfl⟩ (.inl hmem)
      · exact hends t ⟨h0, le_rfl⟩ (.inr hmem)
      · rcases exists_before_inTube hlong hslant hk hout h0 htube with ⟨y, hy, hend⟩ | hhit
        · exact hends y hy hend
        · exact RayHit.exists_nearer_le (.inr hhit)

end Ray

/-! ### Planes -/

namespace Ray

variable {r : Ray ℝ} {g : RayHit ℝ} {t : ℝ}

theorem signedDistance_point (r : Ray ℝ) (s : Plane ℝ) (t : ℝ) : s.signedDistance (r.point t) =
    s.normal.dot r.direction * t - (s.point - r.origin).dot s.normal := by
  rw [Plane.signedDistance, point_sub, Vec3.add_dot, Vec3.mul_dot, ← neg_sub s.point, Vec3.neg_dot,
    Vec3.dot_comm r.direction]
  ring

theorem signedDistance_point_eq_zero_iff {s : Plane ℝ} (hslope : s.normal.dot r.direction ≠ 0) :
    s.signedDistance (r.point t) = 0 ↔
      t = (s.point - r.origin).dot s.normal / s.normal.dot r.direction := by
  rw [signedDistance_point, sub_eq_zero, eq_div_iff hslope, mul_comm]

theorem hitPlane?_of_slope {s : Plane ℝ} (hslope : Scalar.tolerance ≤ |s.normal.dot r.direction|) :
    r.hitPlane? s =
      if (s.point - r.origin).dot s.normal / s.normal.dot r.direction < 0 then none
      else some ⟨(s.point - r.origin).dot s.normal / s.normal.dot r.direction,
        if s.normal.dot r.direction < 0 then s.normal else -s.normal⟩ := by
  unfold hitPlane?
  dsimp only
  rw [Scalar.abs_real, if_neg hslope.not_gt]

/-- A normal of a plane turned against the ray. -/
theorem facing_ite {n d : Vec3 ℝ} (hslope : n.dot d ≠ 0) :
    (if n.dot d < 0 then n else -n).dot d < 0 := by
  split
  next hlt => exact hlt
  next hge =>
    rw [Vec3.neg_dot]
    exact neg_neg_of_pos (lt_of_le_of_ne (not_lt.1 hge) hslope.symm)

/-- **A ray meets a plane from either side**, and the normal is turned against it. -/
theorem enters_hitPlane? {s : Plane ℝ} (hn : s.normal.lengthSq = 1)
    (hslope : Scalar.tolerance ≤ |s.normal.dot r.direction|) :
    r.Enters (fun p => s.signedDistance p = 0) (r.hitPlane? s) := by
  have hne : s.normal.dot r.direction ≠ 0 := abs_pos.1 (Scalar.tolerance_pos.trans_le hslope)
  rw [hitPlane?_of_slope hslope]
  refine ⟨fun g hg => ?_, fun t h0 ht => ?_⟩
  · split at hg
    next => cases hg
    next hahead =>
      cases hg
      refine ⟨not_lt.1 hahead, (signedDistance_point_eq_zero_iff hne).2 rfl, ?_,
        (facing_ite hne).le⟩
      dsimp only
      split
      · exact hn
      · rw [Vec3.lengthSq_neg, hn]
  · obtain rfl := (signedDistance_point_eq_zero_iff hne).1 ht
    rw [if_neg h0.not_gt]
    exact ⟨_, rfl, le_rfl⟩

/-! ### The first entry -/

/-- The test reports a hit exactly if the ray comes to a point of the region, and then the first of
these points, with a unit normal that is turned against the ray. -/
def Finds (r : Ray ℝ) (P : Vec3 ℝ → Prop) (o : Option (RayHit ℝ)) : Prop :=
  (o.isSome ↔ ∃ t, 0 ≤ t ∧ P (r.point t)) ∧
    ∀ g, o = some g → IsLeast {t | 0 ≤ t ∧ P (r.point t)} g.distance ∧
      g.normal.lengthSq = 1 ∧ g.normal.dot r.direction ≤ 0

theorem Enters.finds {P : Vec3 ℝ → Prop} {o : Option (RayHit ℝ)} (h : r.Enters P o) :
    r.Finds P o :=
  ⟨h.isSome_iff, fun g hg => ⟨h.isLeast hg, (h.lands g hg).unit, (h.lands g hg).facing⟩⟩

/-- **A ray test finds the first entry** into a sphere or a capsule from outside, and where the ray
meets a plane. -/
theorem hit?_finds_entry (hd : r.direction.lengthSq = 1) (a : Solid ℝ) :
    (∀ k, a.form = .sphere k → 0 ≤ k → ¬a.Holds r.origin → r.Finds a.Holds (r.hit? a)) ∧
    (∀ k h, a.form = .capsule k h → 0 ≤ k →
      r.Meetable (capsuleCore h a.position a.rotation) → ¬a.Holds r.origin →
      r.Finds a.Holds (r.hit? a)) ∧
    ∀ n, a.form = .plane n → (a.face n).normal.lengthSq = 1 →
      Scalar.tolerance ≤ |(a.face n).normal.dot r.direction| →
      r.Finds (fun p => (a.face n).signedDistance p = 0) (r.hit? a) ∧
      ∀ g, r.hit? a = some g →
        (g.normal = (a.face n).normal ∨ g.normal = -(a.face n).normal) ∧
        g.normal.dot r.direction < 0 := by
  refine ⟨fun k hform hk hout => ?_, fun k h hform hk hcore hout => ?_,
    fun n hform hn hslope => ?_⟩
  · rw [Solid.holds_of_sphere hform] at hout ⊢
    unfold hit?
    simp only [hform]
    exact (enters_hitBall? hd hk hout).finds
  · rw [Solid.holds_of_capsule hform] at hout ⊢
    unfold hit?
    simp only [hform]
    exact (enters_hitCapsule? hd hk hcore hout).finds
  · have hne : (a.face n).normal.dot r.direction ≠ 0 :=
      abs_pos.1 (Scalar.tolerance_pos.trans_le hslope)
    have hplane : r.hit? a = r.hitPlane? (a.face n) := by
      unfold hit?
      simp only [hform]
      rfl
    rw [hplane]
    refine ⟨(enters_hitPlane? hn hslope).finds, fun g hg => ?_⟩
    rw [hitPlane?_of_slope hslope] at hg
    split at hg
    next => cases hg
    next =>
      cases hg
      exact ⟨ite_eq_or_eq .., facing_ite hne⟩

/-! ### A ray against a boulder, a pillar and a wall -/

/-- A ray along the first axis, from a distance back to the origin. -/
noncomputable def homeward (away : ℝ) : Ray ℝ := ⟨⟨away, 0, 0⟩, ⟨-1, 0, 0⟩⟩

noncomputable def boulder : Solid ℝ := ⟨.sphere 1, ⟨0, 0, 0⟩, .identity⟩

noncomputable def pillar : Solid ℝ := ⟨.capsule 1 1, ⟨0, 0, 0⟩, .identity⟩

noncomputable def wall : Solid ℝ := ⟨.plane ⟨1, 0, 0⟩, ⟨0, 0, 0⟩, .identity⟩

theorem lengthSq_direction_homeward : (homeward 5).direction.lengthSq = 1 := by
  norm_num [homeward, Vec3.lengthSq, Vec3.dot]

theorem core_pillar : capsuleCore 1 pillar.position pillar.rotation = ⟨⟨0, -1, 0⟩, ⟨0, 1, 0⟩⟩ := by
  simp only [capsuleCore, pillar, Rotation.apply_identity]
  norm_num [Vec3.up, Vec3.add_def, Vec3.sub_def, Vec3.mul_def]

theorem meetable_pillar :
    (homeward 5).Meetable (capsuleCore 1 pillar.position pillar.rotation) := by
  have hlong : Scalar.tolerance < Vec3.length (⟨0, 2, 0⟩ : Vec3 ℝ) :=
    Real.lt_sqrt_of_sq_lt (by norm_num [Scalar.tolerance, Vec3.lengthSq, Vec3.dot])
  have hspan : Segment.span (⟨⟨0, -1, 0⟩, ⟨0, 1, 0⟩⟩ : Segment ℝ) = ⟨0, 2, 0⟩ := by
    norm_num [Segment.span, Vec3.sub_def]
  rw [core_pillar, Meetable, hspan, Segment.across, Segment.axis, hspan]
  refine .inr ⟨hlong, .inr ?_⟩
  have hacross : ∀ l : ℝ, (homeward 5).direction.dot ((⟨0, 2, 0⟩ : Vec3 ℝ) / l) = 0 := by
    intro l
    rw [Vec3.dot_div]
    simp [homeward, Vec3.dot]
  rw [hacross]
  norm_num [homeward, Scalar.tolerance, Vec3.lengthSq, Vec3.dot, Vec3.sub_def, Vec3.mul_def]

theorem not_holds_pillar : ¬pillar.Holds (homeward 5).origin := by
  rw [Solid.holds_of_capsule (k := 1) (h := 1) rfl, core_pillar]
  rintro ⟨c, ⟨t, -, rfl⟩, hnear⟩
  rw [Vec3.distance, Vec3.length_le_iff zero_le_one] at hnear
  simp only [homeward, Segment.point, Segment.span, Vec3.lengthSq, Vec3.dot, Vec3.sub_def,
    Vec3.add_def, Vec3.mul_def] at hnear
  linarith [mul_self_nonneg (0 - (-1 + (1 - -1) * t))]

theorem not_holds_boulder : ¬boulder.Holds (homeward 5).origin := by
  rw [Solid.holds_of_sphere (k := 1) rfl, Ball.holds_iff zero_le_one]
  norm_num [homeward, boulder, Vec3.lengthSq, Vec3.dot, Vec3.sub_def]

theorem hit?_finds_entry_of_homeward :
    (∃ g, (homeward 5).hit? boulder = some g ∧
      IsLeast {t | 0 ≤ t ∧ boulder.Holds ((homeward 5).point t)} g.distance) ∧
    (∃ g, (homeward 5).hit? pillar = some g ∧
      IsLeast {t | 0 ≤ t ∧ pillar.Holds ((homeward 5).point t)} g.distance) ∧
    ∃ g, (homeward 5).hit? wall = some g ∧ g.normal.dot (homeward 5).direction < 0 := by
  have hcenter : (homeward 5).point 5 = ⟨0, 0, 0⟩ := by
    norm_num [point, homeward, Vec3.add_def, Vec3.mul_def]
  have hface : (wall.face ⟨1, 0, 0⟩).normal = ⟨1, 0, 0⟩ := Rotation.apply_identity _
  obtain ⟨hsphere, -, -⟩ := hit?_finds_entry lengthSq_direction_homeward boulder
  obtain ⟨hboulder, hnear⟩ := hsphere 1 rfl zero_le_one not_holds_boulder
  obtain ⟨-, hcapsule, -⟩ := hit?_finds_entry lengthSq_direction_homeward pillar
  obtain ⟨hpillar, hfirst⟩ := hcapsule 1 1 rfl zero_le_one meetable_pillar not_holds_pillar
  obtain ⟨-, -, hplane⟩ := hit?_finds_entry lengthSq_direction_homeward wall
  obtain ⟨⟨hwall, -⟩, hturned⟩ := hplane ⟨1, 0, 0⟩ rfl
    (by norm_num [hface, Vec3.lengthSq, Vec3.dot])
    (by norm_num [hface, homeward, Vec3.dot, Scalar.tolerance])
  have hmiddle : boulder.Holds ((homeward 5).point 5) := by
    rw [hcenter, Solid.holds_of_sphere (k := 1) rfl]
    simp [Ball.Holds, boulder]
  have hinside : pillar.Holds ((homeward 5).point 5) := by
    rw [hcenter, Solid.holds_of_capsule (k := 1) (h := 1) rfl]
    exact ⟨_, contains_capsuleCore .., by simp [pillar]⟩
  have hbehind : (wall.face ⟨1, 0, 0⟩).signedDistance ((homeward 5).point 5) = 0 := by
    rw [hcenter]
    change ((⟨0, 0, 0⟩ : Vec3 ℝ) - ⟨0, 0, 0⟩).dot _ = 0
    rw [sub_self, Vec3.zero_dot]
  have h5 : (0 : ℝ) ≤ 5 := by norm_num
  obtain ⟨g, hg⟩ := Option.isSome_iff_exists.1 (hboulder.2 ⟨5, h5, hmiddle⟩)
  obtain ⟨g', hg'⟩ := Option.isSome_iff_exists.1 (hpillar.2 ⟨5, h5, hinside⟩)
  obtain ⟨g'', hg''⟩ := Option.isSome_iff_exists.1 (hwall.2 ⟨5, h5, hbehind⟩)
  exact ⟨⟨g, hg, (hnear g hg).1⟩, ⟨g', hg', (hfirst g' hg').1⟩, g'', hg'', (hturned g'' hg'').2⟩

end Ray

end RagdollDynamics
