import RagdollDynamics.Proofs.Collision.Response
import RagdollDynamics.Proofs.Exact.Capsules
import RagdollDynamics.Proofs.Exact.Projection
import RagdollDynamics.Proofs.Translation.Bodies

/-!
# Overlaps that are undone

Where two solids overlap and come apart by the penetration, they touch (`Solid.abuts_of_overlap?`).
The direction of the penetration supports both solids: no ball of theirs reaches beyond the two that
were found, so that those stay the closest ones, or the deepest one, on the way.  A lone collision
moves the shapes apart by just that much, whatever their masses, and is gone afterwards
(`Shapes.parted_by_resolution`).
-/

namespace RagdollDynamics

theorem Plane.signedDistance_apart (s : Plane ℝ) (p u v : Vec3 ℝ) :
    (s.translate v).signedDistance (p + u) = s.signedDistance p - (v - u).dot s.normal := by
  simp only [signedDistance, translate, Vec3.sub_dot, Vec3.add_dot]
  ring

/-! ### Touching solids -/

/-- The centres of the balls are as far from each other as their radii reach. -/
def Ball.Touches (a b : Ball ℝ) : Prop := a.center.distance b.center = a.radius + b.radius

/-- The ball touches the plane from the side that it faces. -/
def Ball.RestsOn (a : Ball ℝ) (s : Plane ℝ) : Prop := s.signedDistance a.center = a.radius

namespace Solid

variable {a b : Solid ℝ} {x y : Ball ℝ} {n u v : Vec3 ℝ} {o : Overlap ℝ}

/-- The solids touch without reaching into each other: no balls of theirs meet, but two of them
touch, or one of them rests on the plane. -/
def Abuts (a b : Solid ℝ) : Prop :=
  ¬ a.Meets b ∧
    ((∃ x y, a.HasBall x ∧ b.HasBall y ∧ x.Touches y) ∨
      (∃ n x, a.form = .plane n ∧ b.HasBall x ∧ x.RestsOn ⟨a.position, a.rotation.apply n⟩) ∨
      ∃ n x, b.form = .plane n ∧ a.HasBall x ∧ x.RestsOn ⟨b.position, b.rotation.apply n⟩)

theorem Meets.symm (h : a.Meets b) : b.Meets a := by
  rcases h with ⟨x, y, hx, hy, hmeets⟩ | h | h
  · refine .inl ⟨y, x, hy, hx, ?_⟩
    rwa [Ball.Meets, Vec3.distance_comm, add_comm]
  · exact .inr (.inr h)
  · exact .inr (.inl h)

theorem Abuts.symm (h : a.Abuts b) : b.Abuts a := by
  obtain ⟨hapart, htouches⟩ := h
  refine ⟨fun hmeets => hapart hmeets.symm, ?_⟩
  rcases htouches with ⟨x, y, hx, hy, htouches⟩ | h | h
  · refine .inl ⟨y, x, hy, hx, ?_⟩
    rwa [Ball.Touches, Vec3.distance_comm, add_comm]
  · exact .inr (.inr h)
  · exact .inr (.inl h)

/-- Planes are not made of balls. -/
theorem HasBall.form_ne_plane (h : a.HasBall x) (n : Vec3 ℝ) : a.form ≠ .plane n := by
  intro hform
  simp [HasBall, hform] at h

theorem HasBall.translate (h : a.HasBall x) (v : Vec3 ℝ) :
    (a.translate v).HasBall (x.translate v) := by
  obtain ⟨hradius, hcenter⟩ := h
  refine ⟨hradius, ?_⟩
  cases hform : a.form with
  | sphere r =>
    simp only [hform] at hcenter
    simp [Solid.translate, Ball.translate, hform, hcenter]
  | capsule r l =>
    simp only [hform] at hcenter
    obtain ⟨t, ht, hpoint⟩ := hcenter
    simp only [Solid.translate, Ball.translate, hform, capsuleCore_add]
    exact ⟨t, ht, by rw [Segment.point_translate, hpoint]⟩
  | plane m => simp only [hform] at hcenter

/-- Every ball of a solid that was moved is one that was moved with it. -/
theorem HasBall.exists_of_translate (h : (a.translate v).HasBall x) :
    ∃ x₀, a.HasBall x₀ ∧ x = x₀.translate v := by
  have hback := h.translate (-v)
  refine ⟨x.translate (-v), ?_, ?_⟩
  · simpa [Solid.translate] using hback
  · simp [Ball.translate]

/-! ### Coming apart -/

/-- Two balls come apart along the direction from the one to the other, which supports both solids:
then the solids touch in these balls. -/
theorem abuts_of_support (hx : a.HasBall x) (hy : b.HasBall y) (hreach : 0 ≤ x.radius + y.radius)
    {d : ℝ} (hn : n.lengthSq = 1) (hbetween : y.center - x.center = n * d)
    (hsupport : ∀ x' y', a.HasBall x' → b.HasBall y' → d ≤ (y'.center - x'.center).dot n)
    (hapart : v - u = n * (x.radius + y.radius - d)) :
    (a.translate u).Abuts (b.translate v) := by
  have hmoved : ∀ x' y' : Ball ℝ, (y'.translate v).center - (x'.translate u).center =
      y'.center - x'.center + (v - u) := by
    intro x' y'
    exact add_sub_add_comm ..
  have hunit : n.length = 1 := Vec3.length_eq_one_iff.2 hn
  have hfar : ∀ x' y', a.HasBall x' → b.HasBall y' →
      x'.radius + y'.radius ≤ (x'.translate u).center.distance (y'.translate v).center := by
    intro x' y' hx' hy'
    have hbound := Vec3.dot_le_length_mul_length
      ((y'.translate v).center - (x'.translate u).center) n
    have hdot : (n * (x.radius + y.radius - d)).dot n = x.radius + y.radius - d := by
      rw [Vec3.mul_dot, ← Vec3.lengthSq, hn, one_mul]
    have hball := hsupport x' y' hx' hy'
    rw [hunit, mul_one, hmoved, Vec3.add_dot, hapart, hdot, ← hapart, ← hmoved] at hbound
    rw [hx'.1, hy'.1, ← hx.1, ← hy.1, Vec3.distance_comm]
    exact le_trans (by linarith) hbound
  refine ⟨?_, .inl ⟨_, _, hx.translate u, hy.translate v, ?_⟩⟩
  · rintro (⟨x₁, y₁, hx₁, hy₁, hmeets⟩ | ⟨m, z, hform, -, -⟩ | ⟨m, z, hform, -, -⟩)
    · obtain ⟨x', hx', rfl⟩ := hx₁.exists_of_translate
      obtain ⟨y', hy', rfl⟩ := hy₁.exists_of_translate
      exact (hfar x' y' hx' hy').not_gt hmeets
    · exact hx.form_ne_plane m hform
    · exact hy.form_ne_plane m hform
  · have hends : (y.translate v).center - (x.translate u).center = n * (x.radius + y.radius) := by
      rw [hmoved, hbetween, hapart]
      refine Vec3.ext ?_ ?_ ?_ <;>
        · simp only [Vec3.add_def, Vec3.mul_def]
          ring
    rw [Ball.Touches, Vec3.distance_comm, Vec3.distance, hends, Vec3.length_mul, hunit, one_mul,
      abs_of_nonneg hreach]
    rfl

theorem face_translate : (b.translate v).face n = (b.face n).translate v := rfl

/-- The deepest ball of a solid comes out of a plane along its normal: then the solid rests on the
plane. -/
theorem abuts_of_deepest (hx : a.HasBall x) (hform : b.form = .plane n)
    (hn : (b.face n).normal.lengthSq = 1)
    (hdeepest : ∀ x', a.HasBall x' →
      (b.face n).signedDistance x.center ≤ (b.face n).signedDistance x'.center)
    (hapart : v - u = -(b.face n).normal * (x.radius - (b.face n).signedDistance x.center)) :
    (a.translate u).Abuts (b.translate v) := by
  have hheight : ∀ x' : Ball ℝ, ((b.translate v).face n).signedDistance (x'.translate u).center =
      (b.face n).signedDistance x'.center +
        (x.radius - (b.face n).signedDistance x.center) := by
    intro x'
    have hdot : (v - u).dot (b.face n).normal =
        -(x.radius - (b.face n).signedDistance x.center) := by
      rw [hapart, Vec3.mul_dot, Vec3.neg_dot, ← Vec3.lengthSq, hn, neg_one_mul]
    rw [face_translate, Ball.translate, Plane.signedDistance_apart, hdot, sub_neg_eq_add]
  refine ⟨?_, .inr (.inr ⟨n, _, hform, hx.translate u, ?_⟩)⟩
  · rintro (⟨x₁, y₁, -, hy₁, -⟩ | ⟨m, z, hform', -, -⟩ | ⟨m, z, hform', hz, henters⟩)
    · exact hy₁.form_ne_plane n hform
    · exact hx.form_ne_plane m hform'
    · obtain ⟨z', hz', rfl⟩ := hz.exists_of_translate
      obtain rfl : n = m := Form.plane.inj (hform.symm.trans hform')
      have hball := hdeepest z' hz'
      have hradius : (z'.translate u).radius = x.radius := hz'.1.trans hx.1.symm
      have hlow : ((b.translate v).face n).signedDistance (z'.translate u).center < x.radius := by
        rw [← hradius]
        exact henters
      rw [hheight] at hlow
      linarith
  · have hrests := hheight x
    rw [add_sub_cancel] at hrests
    exact hrests

/-! ### Overlaps that are found -/

/-- The solid is rotated by a rotation of unit length and has no negative radius, and its normal, if
it is a plane, has unit length. -/
def Regular (a : Solid ℝ) : Prop :=
  a.rotation.IsUnit ∧ 0 ≤ a.form.radius ∧ ∀ n, a.form = .plane n → n.lengthSq = 1

/-- The solid is rotated by a rotation of unit length and has no negative radius; its core, if it is
a capsule, is a point or not shorter than the tolerance; and its normal, if it is a plane, has unit
length. -/
def Proper (a : Solid ℝ) : Prop :=
  a.rotation.IsUnit ∧ 0 ≤ a.form.radius ∧
    match a.form with
    | .sphere _ => True
    | .capsule _ h => (capsuleCore h a.position a.rotation).span = 0 ∨
        Scalar.tolerance ≤ (capsuleCore h a.position a.rotation).span.length
    | .plane n => n.lengthSq = 1

/-- If the solid is a capsule, its ends are equally deep behind the plane, or they differ in depth
by the tolerance at least. -/
def EndsApart (a : Solid ℝ) (s : Plane ℝ) : Prop :=
  ∀ r h, a.form = .capsule r h →
    s.signedDistance (capsuleCore h a.position a.rotation).start =
        s.signedDistance (capsuleCore h a.position a.rotation).finish ∨
      Scalar.tolerance ≤ |s.signedDistance (capsuleCore h a.position a.rotation).start -
        s.signedDistance (capsuleCore h a.position a.rotation).finish|

/-- The pairs of solids that a lone correction parts. -/
inductive Separable (a b : Solid ℝ) : Prop
  /-- A sphere and a rounded solid whose core keeps a distance from the middle of the sphere. -/
  | rounded (r : ℝ) (first : a.form = .sphere r) (second : ∀ n, b.form ≠ .plane n)
      (apart : ∀ x y, a.HasBall x → b.HasBall y → Scalar.tolerance < x.center.distance y.center)
  | resting (n : Vec3 ℝ) (first : ∀ m, a.form ≠ .plane m) (second : b.form = .plane n)
      (ends : a.EndsApart (b.face n))

theorem Proper.core {r h : ℝ} (ha : a.Proper) (hform : a.form = .capsule r h) :
    (capsuleCore h a.position a.rotation).span = 0 ∨
      Scalar.tolerance ≤ (capsuleCore h a.position a.rotation).span.length := by
  have h' := ha.2.2
  simpa only [hform] using h'

theorem Proper.regular (ha : a.Proper) : a.Regular := by
  refine ⟨ha.1, ha.2.1, fun n hform => ?_⟩
  have h' := ha.2.2
  simpa only [hform] using h'

theorem Regular.normal (hb : b.Regular) (hform : b.form = .plane n) :
    (b.face n).normal.lengthSq = 1 :=
  (hb.1.lengthSq_apply n).trans (hb.2.2 n hform)

/-- A point beyond `c`, seen from `p`, is one that `c` does not keep from `p`. -/
theorem support_iff {p c q : Vec3 ℝ} :
    (c - p).lengthSq ≤ (q - p).dot (c - p) ↔ 0 ≤ (c - p).dot (q - c) := by
  have hsplit : (q - p).dot (c - p) = (c - p).lengthSq + (c - p).dot (q - c) := by
    simp only [Vec3.lengthSq, Vec3.dot, Vec3.sub_def]
    ring
  rw [hsplit, le_add_iff_nonneg_right]

/-- The direction between the nearest balls of a sphere and a rounded solid supports both of
them. -/
theorem support_of_nearestBalls? (ha : a.Proper) (hb : b.Proper)
    (hsphere : (∃ r, a.form = .sphere r) ∨ ∃ r, b.form = .sphere r)
    (found : a.nearestBalls? b = some (x, y)) {x' y' : Ball ℝ} (hx' : a.HasBall x')
    (hy' : b.HasBall y') : (y.center - x.center).lengthSq ≤
      (y'.center - x'.center).dot (y.center - x.center) := by
  unfold nearestBalls? at found
  split at found
  next hformA hformB =>
    cases found
    rw [hx'.center_of_sphere hformA, hy'.center_of_sphere hformB]
    exact le_refl _
  next hformA hformB =>
    cases found
    have hahead := Segment.dot_nearestTo_nonneg (p := a.position) (hb.core hformB)
      (hy'.contains_of_capsule hformB)
    rw [hx'.center_of_sphere hformA, support_iff]
    exact hahead
  next hformA hformB =>
    cases found
    have hahead := Segment.dot_nearestTo_nonneg (p := b.position) (ha.core hformA)
      (hx'.contains_of_capsule hformA)
    rw [hy'.center_of_sphere hformB, ← neg_sub, ← neg_sub _ b.position, Vec3.lengthSq_neg,
      Vec3.neg_dot, Vec3.dot_neg, neg_neg, support_iff]
    exact hahead
  next hformA hformB =>
    rcases hsphere with ⟨r, hsphere⟩ | ⟨r, hsphere⟩
    · exact nomatch hformA.symm.trans hsphere
    · exact nomatch hformB.symm.trans hsphere
  next => cases found

theorem overlap?_of_rounded (ha : ∀ n, a.form ≠ .plane n) (hb : ∀ n, b.form ≠ .plane n) :
    a.overlap? b = (a.nearestBalls? b).bind fun balls => balls.1.overlapBall? balls.2 := by
  unfold overlap?
  split
  next n _ h _ => exact absurd h (ha n)
  next n h _ => exact absurd h (ha n)
  next n h _ => exact absurd h (hb n)
  next => rfl

theorem overlap?_of_resting (ha : ∀ m, a.form ≠ .plane m) (hb : b.form = .plane n) :
    a.overlap? b = a.overlapFace? b n ∧ b.overlap? a = (a.overlapFace? b n).map .swapped := by
  unfold overlap?
  rw [hb]
  cases hform : a.form with
  | sphere r => exact ⟨rfl, rfl⟩
  | capsule r h => exact ⟨rfl, rfl⟩
  | plane m => exact absurd hform (ha m)

/-- Two balls whose centres are far enough from each other overlap along the direction from the one
centre to the other. -/
theorem eq_of_overlapBall? (hfar : Scalar.tolerance < x.center.distance y.center)
    (found : x.overlapBall? y = some o) : o =
      ⟨x.center + (y.center - x.center) / (y.center - x.center).length * x.radius,
        (y.center - x.center) / (y.center - x.center).length *
          (x.radius + y.radius - (y.center - x.center).length)⟩ := by
  have hfar' : Scalar.tolerance < Scalar.sqrt (y.center - x.center).lengthSq := by
    rw [Vec3.distance_comm] at hfar
    exact hfar
  unfold Ball.overlapBall? at found
  dsimp only at found
  split at found
  next => cases found
  next =>
    cases found
    rfl

theorem eq_of_overlapPlane? {s : Plane ℝ} (found : x.overlapPlane? s = some o) : o =
    ⟨x.center - s.normal * x.radius, -s.normal * (x.radius - s.signedDistance x.center)⟩ := by
  unfold Ball.overlapPlane? at found
  dsimp only at found
  split at found
  next => cases found
  next =>
    cases found
    rfl

/-- **A sphere and a rounded solid that come apart by the penetration touch.** -/
theorem abuts_of_rounded (ha : a.Proper) (hb : b.Proper)
    (hsphere : (∃ r, a.form = .sphere r) ∨ ∃ r, b.form = .sphere r)
    (hroundA : ∀ n, a.form ≠ .plane n) (hroundB : ∀ n, b.form ≠ .plane n)
    (hfar : ∀ x y, a.HasBall x → b.HasBall y → Scalar.tolerance < x.center.distance y.center)
    (found : a.overlap? b = some o) (hapart : v - u = o.penetration) :
    (a.translate u).Abuts (b.translate v) := by
  rw [overlap?_of_rounded hroundA hroundB] at found
  obtain ⟨⟨x, y⟩, hballs, found⟩ := Option.bind_eq_some_iff.1 found
  obtain ⟨hx, hy⟩ := hasBall_of_nearestBalls? hballs
  have hpos : 0 < (y.center - x.center).length := by
    rw [← Vec3.distance, Vec3.distance_comm]
    exact Scalar.tolerance_pos.trans (hfar x y hx hy)
  have hreach : 0 ≤ x.radius + y.radius := by
    rw [hx.1, hy.1]
    exact add_nonneg ha.2.1 hb.2.1
  rw [eq_of_overlapBall? (hfar x y hx hy) found] at hapart
  refine abuts_of_support (d := (y.center - x.center).length) hx hy hreach ?_ ?_ ?_ hapart
  · refine Vec3.lengthSq_div_length fun hzero => ?_
    rw [hzero, Vec3.length_zero] at hpos
    exact lt_irrefl 0 hpos
  · exact (Vec3.div_mul_cancel _ hpos.ne').symm
  · intro x' y' hx' hy'
    have hsupport := support_of_nearestBalls? ha hb hsphere hballs hx' hy'
    rw [Vec3.dot_div, le_div_iff₀ hpos, Vec3.length_mul_self]
    exact hsupport

/-! ### Solids on a plane -/

theorem signedDistance_point (s : Plane ℝ) (core : Segment ℝ) (t : ℝ) :
    s.signedDistance (core.point t) = s.signedDistance core.start +
      (s.signedDistance core.finish - s.signedDistance core.start) * t := by
  simp only [Plane.signedDistance, Segment.point, Segment.span, Vec3.sub_dot, Vec3.add_dot,
    Vec3.mul_dot]
  ring

/-- No ball of the solid lies deeper than the one that is found. -/
theorem le_of_deepestBall? {s : Plane ℝ} (hends : a.EndsApart s)
    (found : a.deepestBall? s = some x) {x' : Ball ℝ} (hx' : a.HasBall x') :
    s.signedDistance x.center ≤ s.signedDistance x'.center := by
  unfold deepestBall? at found
  split at found
  next hform =>
    cases found
    rw [hx'.center_of_sphere hform]
  next r h hform =>
    obtain ⟨t, ht, hpoint⟩ := hx'.contains_of_capsule hform
    have hdepth := signedDistance_point s (capsuleCore h a.position a.rotation)
    have hends' := hends r h hform
    cases found
    rw [← hpoint, hdepth]
    generalize hd : s.signedDistance (capsuleCore h a.position a.rotation).start = d
      at hdepth hends' ⊢
    generalize he : s.signedDistance (capsuleCore h a.position a.rotation).finish = e
      at hdepth hends' ⊢
    dsimp only
    split
    next hflat =>
      -- the ends are equally deep, and so is the middle
      rw [Scalar.abs_real] at hflat
      obtain rfl : d = e := hends'.resolve_right hflat.not_ge
      obtain ⟨t₀, -, hmiddle⟩ := contains_capsuleCore h a.position a.rotation
      rw [← hmiddle, hdepth]
      linarith
    next =>
      split
      next hlow =>
        have hrise := mul_nonneg (sub_nonneg.2 hlow.le) ht.1
        rw [hd]
        linarith
      next hhigh =>
        rw [he]
        have hrise := mul_nonneg (sub_nonneg.2 (not_lt.1 hhigh)) (sub_nonneg.2 ht.2)
        linarith
  next => cases found

/-- **A rounded solid and a plane that come apart by the penetration touch.** -/
theorem abuts_of_resting (hb : b.Proper) (hform : b.form = .plane n)
    (hends : a.EndsApart (b.face n)) (found : a.overlapFace? b n = some o)
    (hapart : v - u = o.penetration) : (a.translate u).Abuts (b.translate v) := by
  obtain ⟨x, hball, found⟩ := Option.bind_eq_some_iff.1 found
  rw [eq_of_overlapPlane? found] at hapart
  refine abuts_of_deepest (hasBall_of_deepestBall? hball) hform (hb.regular.normal hform) ?_ hapart
  intro x' hx'
  exact le_of_deepestBall? hends hball hx'

/-- **Solids that come apart by the penetration touch**, in whichever order they were tested. -/
theorem abuts_of_overlap? (ha : a.Proper) (hb : b.Proper) (hpair : a.Separable b ∨ b.Separable a)
    (found : a.overlap? b = some o) (hapart : v - u = o.penetration) :
    (a.translate u).Abuts (b.translate v) := by
  rcases hpair with hpair | hpair
  · cases hpair with
    | rounded r first second apart =>
      have hround : ∀ n, a.form ≠ .plane n := fun n h => nomatch first.symm.trans h
      exact abuts_of_rounded ha hb (.inl ⟨r, first⟩) hround second apart found hapart
    | resting n first second ends =>
      rw [(overlap?_of_resting first second).1] at found
      exact abuts_of_resting hb second ends found hapart
  · cases hpair with
    | rounded r first second apart =>
      have hround : ∀ n, b.form ≠ .plane n := fun n h => nomatch first.symm.trans h
      refine abuts_of_rounded ha hb (.inr ⟨r, first⟩) second hround ?_ found hapart
      intro x y hx hy
      rw [Vec3.distance_comm]
      exact apart y x hy hx
    | resting n first second ends =>
      -- the overlap was found from the other side
      rw [(overlap?_of_resting first second).2] at found
      obtain ⟨o', hfound, rfl⟩ := Option.map_eq_some_iff.1 found
      have hback : u - v = o'.penetration := by
        rw [← neg_sub, hapart, Overlap.swapped, neg_neg]
      exact (abuts_of_resting ha second ends hfound hback).symm

/-- Solids that touch are not found to overlap. -/
theorem Abuts.overlap?_eq_none (h : a.Abuts b) (ha : 0 ≤ a.form.radius) (hb : 0 ≤ b.form.radius) :
    a.overlap? b = none := by
  by_contra hsome
  exact h.1 (meets_of_overlap? ha hb (Option.isSome_iff_ne_none.2 hsome))

end Solid

/-! ### A lone collision -/

/-- A correction that is left out because the shape cannot move would be zero. -/
theorem Shape.moveByMean_ite {v : Vec3 ℝ} {k : ℝ} (hk : 0 ≤ k) (s : Shape ℝ) :
    s.moveByMean (if 0 < k then [v * k] else []) = s.moveBy (v * k) := by
  split
  next => simp [moveByMean, moveBy, Vec3.div_def]
  next hfixed =>
    have hzero : v * k = 0 := by
      rw [le_antisymm (not_lt.1 hfixed) hk, Vec3.mul_zero]
    simp [moveByMean, moveBy, hzero]

namespace Collision

variable {c : Collision ℝ} {shapes : Shapes ℝ} {s t : Shape ℝ}

/-- **A lone collision moves its shapes apart by the penetration**, if one of them can move. -/
theorem moves_apart {b : ShapeId} (hsecond : c.second = some b) (hne : c.first ≠ b)
    (hs : shapes.find? c.first = some s) (ht : shapes.find? b = some t) (hs' : s.Settled)
    (ht' : t.Settled) (hmoves : 0 < s.inverseMass ∨ 0 < t.inverseMass) :
    ∃ u v, (resolveAll [c] shapes).find? c.first = some (s.moveBy u) ∧
      (resolveAll [c] shapes).find? b = some (t.moveBy v) ∧ v - u = c.penetration := by
  have hmassA := Shapes.inverseMass_of_find? hs
  have hmassB := Shapes.inverseMass_of_find? ht
  have hA := s.inverseMass_nonneg
  have hB := t.inverseMass_nonneg
  have htotal : c.mobility shapes = s.inverseMass + t.inverseMass := by
    rw [mobility, secondInverseMass, hsecond, hmassA]
    exact congrArg _ hmassB
  have hpos : 0 < s.inverseMass + t.inverseMass := by
    rcases hmoves with hmoves | hmoves
    · exact add_pos_of_pos_of_nonneg hmoves hB
    · exact add_pos_of_nonneg_of_pos hA hmoves
  have hfirst : c.corrections shapes c.first =
      if 0 < s.inverseMass / (s.inverseMass + t.inverseMass) then
        [-c.penetration * (s.inverseMass / (s.inverseMass + t.inverseMass))] else [] := by
    simp [corrections, hsecond, hs, htotal, hmassA, hpos, hpos.not_ge, hne.symm,
      div_pos_iff_of_pos_right]
  have hother : c.corrections shapes b =
      if 0 < t.inverseMass / (s.inverseMass + t.inverseMass) then
        [c.penetration * (t.inverseMass / (s.inverseMass + t.inverseMass))] else [] := by
    simp [corrections, hsecond, hs, htotal, hmassB, hpos, hpos.not_ge, hne,
      div_pos_iff_of_pos_right]
  refine ⟨-c.penetration * (s.inverseMass / (s.inverseMass + t.inverseMass)),
    c.penetration * (t.inverseMass / (s.inverseMass + t.inverseMass)), ?_, ?_, ?_⟩
  · rw [find?_resolveAll_eq hs hs', List.flatMap_singleton, hfirst,
      Shape.moveByMean_ite (div_nonneg hA hpos.le)]
  · rw [find?_resolveAll_eq ht ht', List.flatMap_singleton, hother,
      Shape.moveByMean_ite (div_nonneg hB hpos.le)]
  · exact shares_apart hpos c.penetration

end Collision

namespace Shapes

variable {shapes : Shapes ℝ} {x y : ShapeId} {s t : Shape ℝ} {c : Collision ℝ}

/-- **A lone collision is undone.**  Two shapes, of which one at least can move, collide, and no
correction waits with them.  Then resolution moves them apart by the penetration, so that they touch
without reaching into each other, and no collision is found of them in whichever order. -/
theorem parted_by_resolution (hs : shapes.find? x = some s) (ht : shapes.find? y = some t)
    (hs' : s.toSolid.Proper) (ht' : t.toSolid.Proper)
    (hpair : s.toSolid.Separable t.toSolid ∨ t.toSolid.Separable s.toSolid)
    (hsettled : s.Settled) (htsettled : t.Settled)
    (hmoves : 0 < s.inverseMass ∨ 0 < t.inverseMass) (hc : shapes.collision? x y = some c) :
    (∃ u v, (Collision.resolveAll [c] shapes).find? x = some (s.moveBy u) ∧
      (Collision.resolveAll [c] shapes).find? y = some (t.moveBy v) ∧
      v - u = c.penetration ∧ (s.moveBy u).toSolid.Abuts (t.moveBy v).toSolid) ∧
    (Collision.resolveAll [c] shapes).collision? x y = none ∧
    (Collision.resolveAll [c] shapes).collision? y x = none := by
  obtain ⟨-, -, hne, -⟩ := collision?_eq_some hc
  rw [collision?_of_find? hne hs ht] at hc
  obtain ⟨o, ho, rfl⟩ := Option.map_eq_some_iff.1 hc
  obtain ⟨u, v, hu, hv, hapart⟩ :=
    Collision.moves_apart (c := ⟨o, x, some y⟩) rfl hne hs ht hsettled htsettled hmoves
  have habuts : (s.moveBy u).toSolid.Abuts (t.moveBy v).toSolid :=
    Solid.abuts_of_overlap? hs' ht' hpair ho hapart
  refine ⟨⟨u, v, hu, hv, hapart, habuts⟩, ?_, ?_⟩
  · rw [collision?_of_find? hne hu hv, habuts.overlap?_eq_none hs'.2.1 ht'.2.1]
    rfl
  · rw [collision?_of_find? hne.symm hv hu, habuts.symm.overlap?_eq_none ht'.2.1 hs'.2.1]
    rfl

/-! ### A ball against a post -/

noncomputable def post : Shape ℝ := uprightLimb 0.5 1

noncomputable def knob : Shape ℝ :=
  { Shape.ofForm (.sphere 0.5) 0.5 with position := ⟨0.75, 0.5, 0⟩ }

theorem core_post : capsuleCore 1 post.position post.rotation = uprightCore 1 := by
  obtain ⟨h, hform, hcore⟩ := (surrounds_uprightLimb (r := 0.5) (h := 1) (by norm_num)
    (by norm_num [Scalar.tolerance])).shape
  cases hform
  exact hcore.symm

theorem proper_post : post.toSolid.Proper := by
  refine ⟨?_, ?_, .inr ?_⟩
  · norm_num [Rotation.IsUnit, post, uprightLimb, Shape.ofForm, Rotation.identity]
  · norm_num [post, uprightLimb, Shape.ofForm, Form.radius]
  · rw [core_post, Vec3.length, lengthSq_span_uprightCore]
    refine Real.le_sqrt_of_sq_le ?_
    norm_num [Scalar.tolerance]

theorem proper_knob : knob.toSolid.Proper := by
  refine ⟨?_, ?_, trivial⟩
  · norm_num [Rotation.IsUnit, knob, Shape.ofForm, Rotation.identity]
  · norm_num [knob, Shape.ofForm, Form.radius]

theorem form_post_ne_plane (n : Vec3 ℝ) : post.form ≠ .plane n := by
  intro h
  cases h

theorem form_knob_ne_plane (n : Vec3 ℝ) : knob.form ≠ .plane n := by
  intro h
  cases h

theorem separable_knob : knob.toSolid.Separable post.toSolid := by
  refine .rounded 0.5 rfl form_post_ne_plane ?_
  intro x y hx hy
  have hcore := hy.contains_of_capsule (r := 0.5) (l := 1) rfl
  rw [core_post] at hcore
  obtain ⟨t, -, hpoint⟩ := hcore
  rw [hx.center_of_sphere (r := 0.5) rfl, ← hpoint]
  -- every point of the core is as far from the knob along the first axis
  have hfar : (1 / 2 : ℝ) ^ 2 ≤
      (knob.position - (uprightCore 1).point t).lengthSq := by
    have hup := mul_self_nonneg (1 / 2 - (-1 + (1 + 1) * t))
    simp only [knob, uprightCore, Segment.point, Segment.span, Vec3.lengthSq, Vec3.dot,
      Vec3.sub_def, Vec3.add_def, Vec3.mul_def]
    linarith
  exact lt_of_lt_of_le (by norm_num [Scalar.tolerance]) (Real.le_sqrt_of_sq_le hfar)

theorem nearestTo_post : (uprightCore 1).nearestTo knob.position = ⟨0, 1 / 2, 0⟩ := by
  norm_num [Segment.nearestTo, Segment.nearestParam, Segment.point, Segment.span, uprightCore, knob,
    Vec3.lengthSq, Vec3.dot, Vec3.sub_def, Vec3.add_def, Vec3.mul_def, Scalar.tolerance,
    Scalar.clamp]

theorem isSome_overlap?_post : (post.toSolid.overlap? knob.toSolid).isSome := by
  have hmeets : Ball.Meets ⟨(uprightCore 1).nearestTo knob.position, 0.5⟩
      ⟨knob.position, 0.5⟩ := by
    rw [nearestTo_post, Ball.Meets, Vec3.distance, Vec3.length, Scalar.sqrt_real]
    refine lt_of_le_of_lt (Real.sqrt_le_iff.2 ⟨?_, ?_⟩) (?_ : (3 / 4 : ℝ) < _)
    · norm_num
    · norm_num [knob, Vec3.lengthSq, Vec3.dot, Vec3.sub_def]
    · norm_num
  rw [Solid.overlap?_of_rounded form_post_ne_plane form_knob_ne_plane]
  have hfound := Ball.overlapBall?_of_meets hmeets
  rw [← core_post] at hfound
  exact hfound

/-- A ball and a post that reach into each other are parted. -/
theorem parted_by_resolution_of_knob :
    post.toSolid.Proper ∧ knob.toSolid.Proper ∧ knob.toSolid.Separable post.toSolid ∧
    post.Settled ∧ knob.Settled ∧ 0 < post.inverseMass ∧
    ∃ c, collision? ⟨#[post, knob]⟩ ⟨0⟩ ⟨1⟩ = some c ∧
      collision? (Collision.resolveAll [c] ⟨#[post, knob]⟩) ⟨0⟩ ⟨1⟩ = none ∧
      collision? (Collision.resolveAll [c] ⟨#[post, knob]⟩) ⟨1⟩ ⟨0⟩ = none := by
  have hmoves : 0 < post.inverseMass := by
    norm_num [Shape.inverseMass, Shape.effectiveMass, post, uprightLimb, Shape.ofForm,
      Scalar.isFinite]
  have hsome : (collision? ⟨#[post, knob]⟩ ⟨0⟩ ⟨1⟩).isSome :=
    (isSome_collision?_iff (by decide) rfl rfl).2 isSome_overlap?_post
  obtain ⟨c, hc⟩ := Option.isSome_iff_exists.1 hsome
  obtain ⟨-, hparted⟩ := parted_by_resolution rfl rfl proper_post proper_knob (.inr separable_knob)
    ⟨rfl, rfl⟩ ⟨rfl, rfl⟩ (.inl hmoves) hc
  exact ⟨proper_post, proper_knob, separable_knob, ⟨rfl, rfl⟩, ⟨rfl, rfl⟩, hmoves, c, hc, hparted⟩

end Shapes

end RagdollDynamics
