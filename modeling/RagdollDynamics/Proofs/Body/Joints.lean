import Mathlib.Tactic.Abel
import RagdollDynamics.Proofs.Collision.Response
import RagdollDynamics.Proofs.Exact.Movers
import RagdollDynamics.Proofs.Exact.Products
import RagdollDynamics.Proofs.Rest.Bodies
import RagdollDynamics.Proofs.Translation.Bodies

/-!
# Enforced joints

In exact arithmetic a rod that is enforced between two shapes brings them to its length along the
line between them and keeps their centre of mass where it is; enforced again it does nothing.  A
joint that finds no error moves nothing, and neither does a ragdoll all of whose joints find none
(`Joint.rod_restores_length`).
-/

namespace RagdollDynamics

/-! ### Directions and distances -/

namespace Vec3

theorem lengthSq_up : (up : Vec3 ℝ).lengthSq = 1 := by simp [up, lengthSq, dot]

theorem directionOr_mul_length (v fallback : Vec3 ℝ) : v.directionOr fallback * v.length = v := by
  by_cases hv : v = 0
  · rw [hv, length_zero, mul_zero]
  · have hlength : 1 / v.length * v.length = 1 := one_div_mul_cancel (length_pos hv).ne'
    rw [directionOr_of_ne_zero hv]
    simp only [mul_def, mul_assoc, hlength, mul_one]

protected theorem mul_add (v : Vec3 ℝ) (k l : ℝ) : v * (k + l) = v * k + v * l := by
  simp only [mul_def, add_def, mul_add]

protected theorem mul_sub (v : Vec3 ℝ) (k l : ℝ) : v * (k - l) = v * k - v * l := by
  simp only [mul_def, sub_def, mul_sub]

protected theorem mul_neg (v : Vec3 ℝ) (k : ℝ) : v * -k = -(v * k) := by
  simp [mul_def, neg_def]

theorem mul_mul (v : Vec3 ℝ) (k l : ℝ) : v * k * l = v * (k * l) := by
  simp only [mul_def, mul_assoc]

end Vec3

/-! ### Two shapes -/

namespace Shape

variable {s t : Shape ℝ} {u v : Vec3 ℝ}

/-- The direction from one shape to another one: up, if they are in one place. -/
noncomputable def bearing (s t : Shape ℝ) : Vec3 ℝ := (t.position - s.position).directionOr .up

noncomputable def centroid (s t : Shape ℝ) : Vec3 ℝ :=
  (s.position * s.effectiveMass + t.position * t.effectiveMass) /
    (s.effectiveMass + t.effectiveMass)

theorem isImmovable_iff : s.isImmovable ↔ s.inverseMass = 0 := by simp [isImmovable]

theorem inverseMass_pos (h : ¬s.isImmovable) : 0 < s.inverseMass :=
  lt_of_le_of_ne s.inverseMass_nonneg fun hzero => h (isImmovable_iff.2 hzero.symm)

theorem bearing_mul_distance (s t : Shape ℝ) :
    s.bearing t * s.position.distance t.position = t.position - s.position := by
  rw [Vec3.distance_comm]
  exact Vec3.directionOr_mul_length _ _

theorem lengthSq_bearing (s t : Shape ℝ) : (s.bearing t).lengthSq = 1 :=
  Vec3.lengthSq_directionOr Vec3.lengthSq_up _

/-- Moments that cancel leave the centre of mass where it is. -/
theorem centroid_moveBy (h : u * s.effectiveMass + v * t.effectiveMass = 0) :
    (s.moveBy u).centroid (t.moveBy v) = s.centroid t := by
  have hsum : (s.position + u) * s.effectiveMass + (t.position + v) * t.effectiveMass =
      s.position * s.effectiveMass + t.position * t.effectiveMass := by
    have hdistrib : (s.position + u) * s.effectiveMass + (t.position + v) * t.effectiveMass =
        s.position * s.effectiveMass + t.position * t.effectiveMass +
          (u * s.effectiveMass + v * t.effectiveMass) := by
      refine Vec3.ext ?_ ?_ ?_ <;>
        · simp only [Vec3.add_def, Vec3.mul_def]
          ring
    rw [hdistrib, h, add_zero]
  exact congrArg (fun moment : Vec3 ℝ => moment / (s.effectiveMass + t.effectiveMass)) hsum

end Shape

namespace Joint

/-! ### Rods -/

section Rod

variable {a b x : ShapeId} {s t : Shape ℝ} {length : ℝ} {shapes : Shapes ℝ}

/-- By how much two shapes are farther apart than the length of a rod. -/
noncomputable def stretch (length : ℝ) (s t : Shape ℝ) : ℝ :=
  s.position.distance t.position - length

/-- How far a rod moves a shape of unit inverse mass. -/
noncomputable def pull (length : ℝ) (s t : Shape ℝ) : ℝ :=
  stretch length s t / (s.inverseMass + t.inverseMass)

/-- A rod can tell the direction from one of its shapes to the other one, or they are in one
place. -/
def Aligned (s t : Shape ℝ) : Prop :=
  s.position = t.position ∨ slack < s.position.distance t.position

theorem slack_pos : 0 < (slack : ℝ) := by norm_num [slack]

theorem enforceRod_of_slack (hs : shapes.find? a = some s) (ht : shapes.find? b = some t)
    (h : |stretch length s t| < slack) : enforceRod a b length shapes = (0, shapes) := by
  refine enforceRod_of_holds fun p q hp hq => ?_
  rw [Shapes.position?_of_find? hs] at hp
  rw [Shapes.position?_of_find? ht] at hq
  rw [← Option.some.inj hp, ← Option.some.inj hq]
  exact h

theorem enforceRod_of_not_slack (hne : a ≠ b) (hs : shapes.find? a = some s)
    (ht : shapes.find? b = some t) (h : slack ≤ |stretch length s t|) :
    enforceRod a b length shapes = (|stretch length s t|,
      if s.inverseMass + t.inverseMass = 0 then shapes
      else
        let axis := if slack < s.position.distance t.position then
          (t.position - s.position) / s.position.distance t.position else .up
        (shapes.modify a fun x => x.moveBy (axis * pull length s t * s.inverseMass)).modify b
          fun x => x.moveBy (-(axis * pull length s t * t.inverseMass))) := by
  have hlength : (t.position - s.position).length = s.position.distance t.position :=
    Vec3.distance_comm _ _
  simp only [enforceRod, if_neg hne, hs, ht, Scalar.abs_real, hlength]
  rw [← stretch, if_neg h.not_gt]
  split
  next hfixed => rw [if_pos (beq_iff_eq.1 hfixed)]
  next hmoves =>
    rw [if_neg fun hzero => hmoves (beq_iff_eq.2 hzero)]
    rfl

/-- The axis along which a rod moves its shapes is their bearing. -/
theorem axis_eq_bearing (h : Aligned s t) :
    (if slack < s.position.distance t.position then
      (t.position - s.position) / s.position.distance t.position else .up) = s.bearing t := by
  rcases h with hsame | hapart
  · rw [hsame, Vec3.distance_self, if_neg slack_pos.le.not_gt, Shape.bearing, hsame, sub_self,
      Vec3.zero_directionOr]
  · have hne : t.position - s.position ≠ 0 := by
      intro hzero
      rw [sub_eq_zero.1 hzero, Vec3.distance_self] at hapart
      exact slack_pos.not_gt hapart
    rw [if_pos hapart, Shape.bearing, Vec3.directionOr_of_ne_zero hne, Vec3.distance_comm]
    exact Vec3.ext (div_eq_mul_one_div _ _) (div_eq_mul_one_div _ _) (div_eq_mul_one_div _ _)

/-- A rod that does not hold moves its shapes along their bearing. -/
theorem enforceRod_of_aligned (hne : a ≠ b) (hs : shapes.find? a = some s)
    (ht : shapes.find? b = some t) (haligned : Aligned s t) (h : slack ≤ |stretch length s t|)
    (hmoves : s.inverseMass + t.inverseMass ≠ 0) :
    enforceRod a b length shapes = (|stretch length s t|,
      (shapes.modify a fun x => x.moveBy (s.bearing t * (pull length s t * s.inverseMass))).modify b
        fun x => x.moveBy (s.bearing t * -(pull length s t * t.inverseMass))) := by
  rw [enforceRod_of_not_slack hne hs ht h, if_neg hmoves, axis_eq_bearing haligned]
  simp only [Vec3.mul_mul, Vec3.mul_neg]

/-- The movements along their bearing after which two shapes are at a given distance. -/
theorem position_sub_of_pull (hmoves : s.inverseMass + t.inverseMass ≠ 0) :
    (t.moveBy (s.bearing t * -(pull length s t * t.inverseMass))).position -
      (s.moveBy (s.bearing t * (pull length s t * s.inverseMass))).position =
        s.bearing t * length := by
  have hpull : pull length s t * s.inverseMass + pull length s t * t.inverseMass =
      stretch length s t := by
    rw [← mul_add]
    exact div_mul_cancel₀ _ hmoves
  calc t.position + s.bearing t * -(pull length s t * t.inverseMass) -
        (s.position + s.bearing t * (pull length s t * s.inverseMass))
      = t.position - s.position -
          (s.bearing t * (pull length s t * s.inverseMass) +
            s.bearing t * (pull length s t * t.inverseMass)) := by
        rw [Vec3.mul_neg]
        abel
    _ = s.bearing t * (s.position.distance t.position - stretch length s t) := by
        rw [← Vec3.mul_add, hpull, Vec3.mul_sub, Shape.bearing_mul_distance]
    _ = s.bearing t * length := by rw [stretch, sub_sub_cancel]

theorem distance_of_pull (hlength : 0 ≤ length) (hmoves : s.inverseMass + t.inverseMass ≠ 0) :
    (s.moveBy (s.bearing t * (pull length s t * s.inverseMass))).position.distance
      (t.moveBy (s.bearing t * -(pull length s t * t.inverseMass))).position = length := by
  have hunit : (s.bearing t).length = 1 := Vec3.length_eq_one_iff.2 (s.lengthSq_bearing t)
  rw [Vec3.distance_comm, Vec3.distance, position_sub_of_pull hmoves, Vec3.length_mul, hunit,
    one_mul, abs_of_nonneg hlength]

/-- The moments of the movements cancel, since each shape moves as its inverse mass tells. -/
theorem centroid_of_pull (hs : ¬s.isImmovable) (ht : ¬t.isImmovable) :
    (s.moveBy (s.bearing t * (pull length s t * s.inverseMass))).centroid
      (t.moveBy (s.bearing t * -(pull length s t * t.inverseMass))) = s.centroid t := by
  have hones := Shape.inverseMass_mul_effectiveMass (Shape.inverseMass_pos hs)
  have honet := Shape.inverseMass_mul_effectiveMass (Shape.inverseMass_pos ht)
  refine Shape.centroid_moveBy ?_
  rw [Vec3.mul_mul, Vec3.mul_mul, ← Vec3.mul_add, mul_assoc, hones, neg_mul, mul_assoc, honet,
    add_neg_cancel, Vec3.mul_zero]

theorem find?_modify_modify (hne : a ≠ b) (hs : shapes.find? a = some s)
    (ht : shapes.find? b = some t) (f g : Shape ℝ → Shape ℝ) :
    ((shapes.modify a f).modify b g).find? a = some (f s) ∧
      ((shapes.modify a f).modify b g).find? b = some (g t) := by
  constructor
  · rw [Arena.find?_modify_of_ne _ hne.symm, Arena.find?_modify_self, hs, Option.map_some]
  · rw [Arena.find?_modify_self, Arena.find?_modify_of_ne _ hne, ht, Option.map_some]

theorem forall_found (hs : shapes.find? a = some s) (ht : shapes.find? b = some t)
    {P : Shape ℝ → Shape ℝ → Prop} (h : P s t) (s' t' : Shape ℝ) (hs' : shapes.find? a = some s')
    (ht' : shapes.find? b = some t') : P s' t' := by
  rw [← Option.some.inj (hs.symm.trans hs'), ← Option.some.inj (ht.symm.trans ht')]
  exact h

/-- A rod has been enforced between two shapes: those that can move went along their bearing, until
one is the length of the rod from the other one.  The rod finds nothing more to do. -/
structure Restored (a b : ShapeId) (length : ℝ) (s t : Shape ℝ) (after : Shapes ℝ) : Prop where
  along : ∃ u v : ℝ, after.find? a = some (s.moveBy (s.bearing t * u)) ∧
    after.find? b = some (t.moveBy (s.bearing t * v)) ∧
    (s.isImmovable → u = 0) ∧ (t.isImmovable → v = 0)
  oriented : ∀ s' t', after.find? a = some s' → after.find? b = some t' →
    t'.position - s'.position = s.bearing t * length
  apart : ∀ s' t', after.find? a = some s' → after.find? b = some t' →
    s'.position.distance t'.position = length
  balanced : ¬s.isImmovable → ¬t.isImmovable → ∀ s' t', after.find? a = some s' →
    after.find? b = some t' → s'.centroid t' = s.centroid t
  settled : (rod a b length).enforce after = (0, after)

theorem restored_enforceRod (hne : a ≠ b) (hs : shapes.find? a = some s)
    (ht : shapes.find? b = some t) (hlength : 0 ≤ length) (haligned : Aligned s t)
    (h : slack ≤ |stretch length s t|) (hmovable : ¬(s.isImmovable ∧ t.isImmovable)) :
    (enforceRod a b length shapes).1 = |stretch length s t| ∧
      Restored a b length s t (enforceRod a b length shapes).2 := by
  have hmoves : s.inverseMass + t.inverseMass ≠ 0 := by
    intro hzero
    obtain ⟨hs₀, ht₀⟩ :=
      (add_eq_zero_iff_of_nonneg s.inverseMass_nonneg t.inverseMass_nonneg).1 hzero
    exact hmovable ⟨Shape.isImmovable_iff.2 hs₀, Shape.isImmovable_iff.2 ht₀⟩
  rw [enforceRod_of_aligned hne hs ht haligned h hmoves]
  refine ⟨rfl, ?_⟩
  obtain ⟨hs', ht'⟩ := find?_modify_modify hne hs ht
    (fun x => x.moveBy (s.bearing t * (pull length s t * s.inverseMass)))
    (fun x => x.moveBy (s.bearing t * -(pull length s t * t.inverseMass)))
  have hapart := distance_of_pull hlength hmoves
  refine ⟨⟨_, _, hs', ht', fun hfixed => ?_, fun hfixed => ?_⟩, ?_, ?_, fun hmoves hmovet => ?_, ?_⟩
  · rw [Shape.isImmovable_iff.1 hfixed, mul_zero]
  · rw [Shape.isImmovable_iff.1 hfixed, mul_zero, neg_zero]
  · exact forall_found hs' ht' (position_sub_of_pull hmoves)
  · exact forall_found hs' ht' hapart
  · exact forall_found hs' ht' (centroid_of_pull hmoves hmovet)
  · refine enforceRod_of_slack hs' ht' ?_
    rw [stretch, hapart, sub_self, abs_zero]
    exact slack_pos

end Rod

/-! ### Joints that find no error -/

theorem enforceRod_eq_or_pos (a b : ShapeId) (length : ℝ) (shapes : Shapes ℝ) :
    enforceRod a b length shapes = (0, shapes) ∨ 0 < (enforceRod a b length shapes).1 := by
  unfold enforceRod
  split
  · exact .inl rfl
  split
  next s t hs ht =>
    dsimp only
    split
    · exact .inl rfl
    next herror =>
      have hpos := slack_pos.trans_le (not_lt.1 herror)
      split <;> exact .inr hpos
  next => exact .inl rfl

theorem enforcePin_eq_or_pos (shape : ShapeId) (anchor : Vec3 ℝ) (shapes : Shapes ℝ) :
    enforcePin shape anchor shapes = (0, shapes) ∨ 0 < (enforcePin shape anchor shapes).1 := by
  by_cases hholds : (pin shape anchor).Holds shapes
  · exact .inl (enforcePin_of_holds hholds)
  obtain ⟨p, hp, haway⟩ : ∃ p, shapes.position? shape = some p ∧ p ≠ anchor := by
    simpa only [Holds, not_forall, exists_prop] using hholds
  right
  rw [enforcePin, hp]
  exact Vec3.length_pos (sub_ne_zero.2 haway)

/-- A joint finds an error, or it moves nothing. -/
theorem enforce_eq_or_pos (j : Joint ℝ) (shapes : Shapes ℝ) :
    j.enforce shapes = (0, shapes) ∨ 0 < (j.enforce shapes).1 := by
  cases j with
  | rod a b length => exact enforceRod_eq_or_pos a b length shapes
  | pin shape anchor => exact enforcePin_eq_or_pos shape anchor shapes

/-- Joints that are enforced in turn leave the shapes as they are until one finds an error. -/
theorem enforceAll_eq_or_pos (js : List (Joint ℝ)) (shapes : Shapes ℝ) :
    (enforceAll js shapes).2 = shapes ∨ ∃ error ∈ (enforceAll js shapes).1, 0 < error := by
  induction js with
  | nil => exact .inl rfl
  | cons j rest ih =>
    rcases j.enforce_eq_or_pos shapes with hone | hpos
    · rw [enforceAll, hone]
      refine ih.imp id ?_
      rintro ⟨error, hmem, hpos⟩
      exact ⟨error, List.mem_cons_of_mem _ hmem, hpos⟩
    · exact .inr ⟨_, List.mem_cons_self, hpos⟩

end Joint

namespace Scalar

theorem le_foldl_max (xs : List ℝ) (a : ℝ) : a ≤ xs.foldl max a := by
  induction xs generalizing a with
  | nil => exact le_refl a
  | cons x xs ih =>
    have hstep : a ≤ max a x := (max_real a x).symm ▸ le_sup_left
    exact hstep.trans (ih _)

theorem le_greatest {xs : List ℝ} {x : ℝ} (h : x ∈ xs) : x ≤ greatest xs := by
  obtain ⟨before, after, rfl⟩ := List.append_of_mem h
  rw [greatest, List.foldl_append, List.foldl_cons]
  have hstep : x ≤ max (before.foldl max 0) x := (max_real _ x).symm ▸ le_sup_right
  exact hstep.trans (le_foldl_max after _)

end Scalar

/-- A ragdoll whose joints find no error is left as it is. -/
theorem JointedDoll.enforce_of_eq_zero {d : JointedDoll ℝ} {shapes : Shapes ℝ}
    (h : (d.enforce shapes).1 = 0) : (d.enforce shapes).2 = shapes := by
  refine (Joint.enforceAll_eq_or_pos d.joints shapes).resolve_right ?_
  rintro ⟨error, hmem, hpos⟩
  exact hpos.not_ge (h ▸ Scalar.le_greatest hmem)

namespace Joint

/-- **A rod brings two shapes to its length, and a joint without error moves nothing.**  A rod that
is off by less than the slack, or has two immovable ends, leaves the shapes as they are.  Any other
one moves its ends along the line between them, up and down if they are in one place, until they
are its length apart, keeps their centre of mass and leaves an immovable end; it reports the error
that it found and is then settled.  No other shape moves.  If the joints of a ragdoll, whichever
they are, report no error, no shape has moved. -/
theorem rod_restores_length :
    (∀ (shapes : Shapes ℝ) (a b : ShapeId) (length : ℝ) (s t : Shape ℝ), a ≠ b →
      shapes.find? a = some s → shapes.find? b = some t → 0 ≤ length → Aligned s t →
        (|stretch length s t| < slack → (rod a b length).enforce shapes = (0, shapes)) ∧
        (slack ≤ |stretch length s t| → s.isImmovable ∧ t.isImmovable →
          (rod a b length).enforce shapes = (|stretch length s t|, shapes)) ∧
        (slack ≤ |stretch length s t| → ¬(s.isImmovable ∧ t.isImmovable) →
          ((rod a b length).enforce shapes).1 = |stretch length s t| ∧
            Restored a b length s t ((rod a b length).enforce shapes).2)) ∧
    (∀ (shapes : Shapes ℝ) (a b x : ShapeId) (length : ℝ), x ≠ a → x ≠ b →
      ((rod a b length).enforce shapes).2.find? x = shapes.find? x) ∧
    ∀ (d : JointedDoll ℝ) (shapes : Shapes ℝ),
      (d.enforce shapes).1 = 0 → (d.enforce shapes).2 = shapes := by
  refine ⟨?_, ?_, fun d shapes h => JointedDoll.enforce_of_eq_zero h⟩
  · intro shapes a b length s t hne hs ht hlength haligned
    refine ⟨enforceRod_of_slack hs ht, ?_, restored_enforceRod hne hs ht hlength haligned⟩
    rintro herror ⟨hfixed, hfixed'⟩
    rw [Shape.isImmovable_iff] at hfixed hfixed'
    rw [enforce, enforceRod_of_not_slack hne hs ht herror,
      if_pos (by rw [hfixed, hfixed', add_zero])]
  · intro shapes a b x length ha hb
    refine (changedOn_enforceRod a b length shapes).find?_eq fun hmem => ?_
    rcases List.mem_pair.1 (Shapes.mem_movable_iff.1 hmem).1 with rfl | rfl
    · exact ha rfl
    · exact hb rfl

noncomputable def weight (mass x : ℝ) : Shape ℝ :=
  { Shape.ofForm (.sphere 1) mass with position := ⟨x, 0, 0⟩ }

/-- A ball, one that is six times as heavy, and one that cannot move. -/
noncomputable def dumbbell : Shapes ℝ := ⟨#[weight 1 0, weight 6 6, weight 0 7]⟩

/-- The first two balls, held at a distance of one. -/
noncomputable def tied : JointedDoll ℝ :=
  { JointedDoll.atRest [⟨0⟩, ⟨1⟩] dumbbell with joints := [rod ⟨0⟩ ⟨1⟩ 1] }

theorem distance_weight (m m' : ℝ) : (weight m 0).position.distance (weight m' 6).position = 6 := by
  have hsquare : Vec3.lengthSq ((⟨0, 0, 0⟩ : Vec3 ℝ) - ⟨6, 0, 0⟩) = 6 * 6 := by
    norm_num [Vec3.lengthSq, Vec3.dot, Vec3.sub_def]
  rw [weight, weight, Vec3.distance, Vec3.length, hsquare, Scalar.sqrt_real]
  exact Real.sqrt_mul_self (by norm_num)

/-- Two balls six apart are drawn together to a distance of one.  The third one stays, and nothing
moves when the two are drawn once more. -/
theorem rod_restores_length_of_dumbbell :
    Aligned (weight 1 0) (weight 6 6) ∧ slack ≤ |stretch 1 (weight 1 0) (weight 6 6)| ∧
    (tied.enforce dumbbell).1 = 5 ∧
    Restored ⟨0⟩ ⟨1⟩ 1 (weight 1 0) (weight 6 6) (tied.enforce dumbbell).2 ∧
    (tied.enforce dumbbell).2.find? ⟨2⟩ = some (weight 0 7) ∧
    (tied.enforce (tied.enforce dumbbell).2).1 = 0 ∧
    (tied.enforce (tied.enforce dumbbell).2).2 = (tied.enforce dumbbell).2 := by
  have haligned : Aligned (weight 1 0) (weight 6 6) := by
    right
    rw [distance_weight]
    norm_num [slack]
  have hstretch : |stretch 1 (weight 1 0) (weight 6 6)| = 5 := by
    rw [stretch, distance_weight]
    norm_num
  have herror : slack ≤ |stretch 1 (weight 1 0) (weight 6 6)| := by
    rw [hstretch]
    norm_num [slack]
  have hmovable : ¬((weight 1 0).isImmovable ∧ (weight 6 6).isImmovable) := by
    rintro ⟨hfixed, -⟩
    norm_num [Shape.isImmovable_iff, Shape.inverseMass, Shape.effectiveMass, weight, Shape.ofForm,
      Scalar.isFinite] at hfixed
  obtain ⟨hrod, hothers, hquiet⟩ := rod_restores_length
  obtain ⟨-, -, hrestores⟩ := hrod dumbbell ⟨0⟩ ⟨1⟩ 1 (weight 1 0) (weight 6 6) (by decide)
    rfl rfl zero_le_one haligned
  obtain ⟨hfound, hrestored⟩ := hrestores herror hmovable
  have hsettled : (tied.enforce (tied.enforce dumbbell).2).1 = 0 := by
    change Scalar.greatest [((rod ⟨0⟩ ⟨1⟩ 1).enforce (tied.enforce dumbbell).2).1] = 0
    refine Scalar.greatest_eq_zero fun error hmem => ?_
    rw [List.mem_singleton.1 hmem]
    exact (congrArg Prod.fst hrestored.settled).le
  refine ⟨haligned, herror, ?_, hrestored, hothers dumbbell ⟨0⟩ ⟨1⟩ ⟨2⟩ 1 (by decide)
    (by decide), hsettled, hquiet tied _ hsettled⟩
  change Scalar.max 0 ((rod ⟨0⟩ ⟨1⟩ 1).enforce dumbbell).1 = 5
  rw [hfound, hstretch, Scalar.max_real]
  exact sup_eq_right.2 (by norm_num)

end Joint

end RagdollDynamics
