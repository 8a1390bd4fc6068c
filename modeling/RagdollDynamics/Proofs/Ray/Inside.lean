import RagdollDynamics.Proofs.Ray.Entry

/-!
# Rays from inside

In exact arithmetic a ray that starts inside a sphere does not hit it, and one that starts inside a
capsule never hits the tube between the ends.  It still hits the balls at the ends: one that does
not enclose the origin is hit where the ray comes to it (`Ray.hit?_of_encloses`), and that can be
inside the capsule, away from its surface (`Ray.hit_inside_mast`).
-/

namespace RagdollDynamics

/-- A function that starts negative has vanished before, if it did at all. -/
theorem firstRoot_neg {a b c : ℝ} (ha : 0 < a) (hc : c < 0) : firstRoot a b c < 0 := by
  have hroot : -b < Real.sqrt (b * b - a * c) := by
    refine Real.lt_sqrt_of_sq_lt ?_
    rw [neg_sq, sq]
    linarith only [mul_neg_of_pos_of_neg ha hc]
  exact div_neg_of_neg_of_pos (sub_neg.2 hroot) ha

/-! ### Balls -/

namespace Ray

variable {r : Ray ℝ} {ball : Ball ℝ} {g : RayHit ℝ}

/-- How far along the ray the point nearest to `p` is. -/
noncomputable def along (r : Ray ℝ) (p : Vec3 ℝ) : ℝ := (p - r.origin).dot r.direction

/-- The ray comes to the ball, or starts on its surface without leaving it: it does not start
inside, the point nearest to the centre lies ahead, and the ball holds that point. -/
structure Strikes (r : Ray ℝ) (ball : Ball ℝ) : Prop where
  outside : ¬ball.Encloses r.origin
  ahead : 0 ≤ r.along ball.center
  near : ball.Holds (r.point (r.along ball.center))

/-- What the ray strikes, by where it starts and by its slope there. -/
theorem strikes_iff (hd : r.direction.lengthSq = 1) (hr : 0 ≤ ball.radius) : r.Strikes ball ↔
    0 ≤ (r.origin - ball.center).lengthSq - ball.radius * ball.radius ∧
    (r.origin - ball.center).dot r.direction ≤ 0 ∧ r.LineMeets ball := by
  have hslope : (r.origin - ball.center).dot r.direction = -r.along ball.center := by
    rw [along, ← neg_sub, Vec3.neg_dot]
  have houtside : ¬ball.Encloses r.origin ↔
      0 ≤ (r.origin - ball.center).lengthSq - ball.radius * ball.radius := by
    rw [Ball.encloses_iff hr, not_lt, sub_nonneg]
  have hnear : ball.Holds (r.point (r.along ball.center)) ↔ r.LineMeets ball := by
    rw [holds_point_iff hd hr, LineMeets, hslope, ← neg_nonneg]
    exact iff_of_eq (congrArg (0 ≤ ·) (by ring))
  rw [hslope, neg_nonpos, ← houtside, ← hnear]
  exact ⟨fun h => ⟨h.outside, h.ahead, h.near⟩, fun h => ⟨h.1, h.2.1, h.2.2⟩⟩

/-- **Which balls a ray is reported to hit**, wherever it starts. -/
theorem isSome_hitBall?_iff (hd : r.direction.lengthSq = 1) (hr : 0 ≤ ball.radius) :
    (r.hitBall? ball).isSome ↔ r.Strikes ball := by
  rw [strikes_iff hd hr, Option.isSome_iff_exists]
  constructor
  · rintro ⟨g, hg⟩
    obtain ⟨-, hmeets, hahead, -⟩ := hitBall?_eq_some_iff.1 hg
    refine ⟨?_, ?_, hmeets⟩
    · by_contra hinside
      exact (firstRoot_neg one_pos (not_le.1 hinside)).not_ge hahead
    · have hroot := mul_firstRoot (b := (r.origin - ball.center).dot r.direction)
        (c := (r.origin - ball.center).lengthSq - ball.radius * ball.radius) one_ne_zero
      rw [← ballEntry] at hroot
      linarith only [hroot, hahead, Real.sqrt_nonneg ((r.origin - ball.center).dot r.direction *
        (r.origin - ball.center).dot r.direction -
          1 * ((r.origin - ball.center).lengthSq - ball.radius * ball.radius))]
  · rintro ⟨hc, hb, hmeets⟩
    exact ⟨_, hitBall?_eq_some_iff.2 ⟨fun h => hb.not_gt h.2, hmeets,
      firstRoot_nonneg one_pos hb hc, rfl⟩⟩

/-- What is reported is a point ahead on the surface of the ball. -/
theorem distance_of_hitBall? (hd : r.direction.lengthSq = 1) (hr : 0 ≤ ball.radius)
    (h : r.hitBall? ball = some g) :
    0 ≤ g.distance ∧ (r.point g.distance).distance ball.center = ball.radius := by
  obtain ⟨-, hmeets, hahead, rfl⟩ := hitBall?_eq_some_iff.1 h
  refine ⟨hahead, ?_⟩
  rw [Vec3.distance, Vec3.length, lengthSq_ballEntry hd hmeets, Scalar.sqrt_real,
    Real.sqrt_mul_self hr]

end Ray

/-! ### Capsules -/

theorem Segment.lengthSq_across_lt {s : Segment ℝ} (hs : s.span ≠ 0) {k : ℝ} {c p : Vec3 ℝ}
    (hc : s.Contains c) (hnear : Ball.Encloses ⟨c, k⟩ p) :
    (s.across (p - s.start)).lengthSq < k * k := by
  obtain ⟨t, -, rfl⟩ := hc
  have hclose := (Ball.encloses_iff hnear.radius_nonneg).1 hnear
  dsimp only at hclose
  rw [point_eq_along hs, lengthSq_sub_along hs] at hclose
  linarith [mul_self_nonneg (s.height p - s.span.length * t)]

theorem RayHit.isSome_nearer {x y : Option (RayHit ℝ)} :
    (nearer x y).isSome ↔ x.isSome ∨ y.isSome := by
  cases x <;> cases y <;> simp [nearer]

namespace Ray

variable {r : Ray ℝ} {s : Segment ℝ} {k : ℝ} {c : Vec3 ℝ} {g : RayHit ℝ}

/-- From inside, the ray does not enter the tube. -/
theorem hitTube?_of_encloses (hc : s.Contains c) (hin : Ball.Encloses ⟨c, k⟩ r.origin) :
    r.hitTube? s k = none := by
  by_contra hsome
  obtain ⟨g, hg⟩ := Option.ne_none_iff_exists'.1 hsome
  obtain ⟨hlong, hslant, -, hahead, -⟩ := hitTube?_eq_some_iff.1 hg
  have hinside := Segment.lengthSq_across_lt (Segment.span_ne_zero hlong) hc hin
  exact (firstRoot_neg (Scalar.tolerance_pos.trans hslant) (sub_neg.2 hinside)).not_ge hahead

/-- From inside, what is reported of a capsule is reported of the balls at its ends. -/
theorem hitCapsule?_of_encloses (hc : s.Contains c) (hin : Ball.Encloses ⟨c, k⟩ r.origin) :
    r.hitCapsule? s k =
      RayHit.nearer (r.hitBall? ⟨s.start, k⟩) (r.hitBall? ⟨s.finish, k⟩) := by
  unfold hitCapsule?
  rw [hitTube?_of_encloses hc hin]
  exact RayHit.nearer.eq_2 _

/-! ### Solids -/

/-- **From inside a sphere nothing is hit; from inside a capsule at most an end is**, namely one
whose ball does not enclose the origin and that the ray comes to.  A reported hit is ahead, on the
surface of that ball. -/
theorem hit?_of_encloses {a : Solid ℝ} (hd : r.direction.lengthSq = 1)
    (hin : a.Encloses r.origin) :
    (∀ k, a.form = .sphere k → r.hit? a = none) ∧
    ∀ k h, a.form = .capsule k h →
      let core := capsuleCore h a.position a.rotation
      ((r.hit? a).isSome ↔ r.Strikes ⟨core.start, k⟩ ∨ r.Strikes ⟨core.finish, k⟩) ∧
      ∀ g, r.hit? a = some g → 0 ≤ g.distance ∧
        ((r.point g.distance).distance core.start = k ∨
          (r.point g.distance).distance core.finish = k) := by
  refine ⟨fun k hform => ?_, fun k h hform => ?_⟩
  · have hball : Ball.Encloses ⟨a.position, k⟩ r.origin :=
      (Solid.exists_hasBall_of_sphere hform).1 hin
    have hmiss : ¬(r.hitBall? ⟨a.position, k⟩).isSome := fun hhit =>
      ((isSome_hitBall?_iff hd hball.radius_nonneg).1 hhit).outside hball
    simpa [hit?, hform] using hmiss
  · obtain ⟨c, hc, hball⟩ := (Solid.exists_hasBall_of_capsule hform).1 hin
    have hk : 0 ≤ k := hball.radius_nonneg
    have hends : r.hit? a = RayHit.nearer
        (r.hitBall? ⟨(capsuleCore h a.position a.rotation).start, k⟩)
        (r.hitBall? ⟨(capsuleCore h a.position a.rotation).finish, k⟩) := by
      rw [← hitCapsule?_of_encloses hc hball, hit?]
      simp only [hform]
    rw [hends]
    refine ⟨?_, fun g hg => ?_⟩
    · rw [RayHit.isSome_nearer, isSome_hitBall?_iff hd hk, isSome_hitBall?_iff hd hk]
    · rcases RayHit.eq_or_eq_of_nearer hg with hstart | hfinish
      · exact (distance_of_hitBall? hd hk hstart).imp_right .inl
      · exact (distance_of_hitBall? hd hk hfinish).imp_right .inr

/-! ### From the middle of a mast -/

noncomputable def mast : Solid ℝ := ⟨.capsule 0.5 1, ⟨0, 0, 0⟩, .identity⟩

noncomputable def upward : Ray ℝ := ⟨⟨0, 0, 0⟩, .up⟩

theorem lengthSq_direction_upward : upward.direction.lengthSq = 1 := by
  norm_num [upward, Vec3.up, Vec3.lengthSq, Vec3.dot]

theorem core_mast : capsuleCore 1 mast.position mast.rotation = ⟨⟨0, -1, 0⟩, ⟨0, 1, 0⟩⟩ := by
  simp only [capsuleCore, mast, Rotation.apply_identity]
  norm_num [Vec3.up, Vec3.add_def, Vec3.sub_def, Vec3.mul_def]

/-- The mast encloses the points of its core. -/
theorem encloses_mast {y : ℝ} (hy : y ∈ Set.Icc (-1) 1) : mast.Encloses ⟨0, y, 0⟩ := by
  refine (Solid.exists_hasBall_of_capsule (k := 0.5) (h := 1) rfl).2 ⟨⟨0, y, 0⟩, ?_, ?_⟩
  · obtain ⟨hlow, hhigh⟩ := hy
    rw [core_mast]
    refine ⟨(y + 1) / 2, ⟨by linarith, by linarith⟩, ?_⟩
    refine Vec3.ext ?_ ?_ ?_ <;>
      · simp only [Segment.point, Segment.span, Vec3.sub_def, Vec3.add_def, Vec3.mul_def]
        ring
  · rw [Ball.Encloses, Vec3.distance_self]
    norm_num

theorem hitBall?_mast_lower : upward.hitBall? ⟨⟨0, -1, 0⟩, 0.5⟩ = none := by
  refine if_pos ?_
  norm_num [upward, Vec3.up, Vec3.lengthSq, Vec3.dot, Vec3.sub_def]

theorem strikes_mast_upper : upward.Strikes ⟨⟨0, 1, 0⟩, 0.5⟩ := by
  refine (strikes_iff lengthSq_direction_upward (by norm_num)).2 ?_
  norm_num [LineMeets, upward, Vec3.up, Vec3.lengthSq, Vec3.dot, Vec3.sub_def]

theorem ballEntry_mast_upper : upward.ballEntry ⟨⟨0, 1, 0⟩, 0.5⟩ = 0.5 := by
  have hslope : (upward.origin - ⟨0, 1, 0⟩).dot upward.direction = -1 := by
    norm_num [upward, Vec3.up, Vec3.dot, Vec3.sub_def]
  have hcenter : (upward.origin - ⟨0, 1, 0⟩).lengthSq = 1 := by
    norm_num [upward, Vec3.lengthSq, Vec3.dot, Vec3.sub_def]
  have hdiscriminant : (-1 : ℝ) * -1 - 1 * (1 - 0.5 * 0.5) = 0.5 * 0.5 := by norm_num
  rw [ballEntry, firstRoot, hslope, hcenter, hdiscriminant, Real.sqrt_mul_self (by norm_num)]
  norm_num

theorem hit?_of_encloses_of_mast :
    upward.hit? boulder = none ∧ (upward.hit? mast).isSome := by
  have hboulder : boulder.Encloses upward.origin := by
    refine (Solid.exists_hasBall_of_sphere (k := 1) rfl).2 ?_
    norm_num [Ball.Encloses, boulder, upward]
  have hmast : mast.Encloses upward.origin := encloses_mast (by norm_num)
  refine ⟨(hit?_of_encloses lengthSq_direction_upward hboulder).1 1 rfl, ?_⟩
  obtain ⟨hends, -⟩ := (hit?_of_encloses lengthSq_direction_upward hmast).2 0.5 1 rfl
  rw [core_mast] at hends
  exact hends.2 (.inr strikes_mast_upper)

/-- **From the middle of a mast its upper end is hit**, at a point inside the mast. -/
theorem hit_inside_mast :
    upward.direction.lengthSq = 1 ∧ mast.rotation.IsUnit ∧ mast.Encloses upward.origin ∧
      ∃ g, upward.hit? mast = some g ∧ g.distance = 0.5 ∧
        mast.Encloses (upward.point g.distance) := by
  have hinside : mast.Encloses upward.origin := encloses_mast (by norm_num)
  obtain ⟨c, hc, hball⟩ := (Solid.exists_hasBall_of_capsule (k := 0.5) (h := 1) rfl).1 hinside
  obtain ⟨g, hg⟩ := Option.isSome_iff_exists.1
    ((isSome_hitBall?_iff lengthSq_direction_upward (by norm_num)).2 strikes_mast_upper)
  have hends : upward.hit? mast = some g := by
    change upward.hitCapsule? (capsuleCore 1 mast.position mast.rotation) 0.5 = some g
    rw [hitCapsule?_of_encloses hc hball, core_mast, hitBall?_mast_lower, hg]
    rfl
  have hdistance : g.distance = 0.5 := by
    obtain ⟨-, -, -, rfl⟩ := hitBall?_eq_some_iff.1 hg
    exact ballEntry_mast_upper
  have hpoint : upward.point 0.5 = ⟨0, 0.5, 0⟩ := by
    norm_num [point, upward, Vec3.up, Vec3.add_def, Vec3.mul_def]
  refine ⟨lengthSq_direction_upward, by norm_num [Rotation.IsUnit, mast, Rotation.identity],
    hinside, g, hends, hdistance, ?_⟩
  rw [hdistance, hpoint]
  exact encloses_mast (by norm_num)

end Ray

end RagdollDynamics
