import RagdollDynamics.Proofs.Exact.Nearest
import RagdollDynamics.Proofs.Body.Joints

/-!
# Roots at their targets

A ragdoll whose root has drifted is shifted as a whole, its past included, until the root is at its
target seen from the frame of the shapes (`JointedDoll.recentered_recenter`).  To do so once more
changes nothing (`JointedDoll.recenter_recenter`).
-/

namespace RagdollDynamics

variable {shapes : Shapes ℝ}

/-- How far a particle moved in the last step, if its shape exists. -/
noncomputable def Particle.velocity? (shapes : Shapes ℝ) (p : Particle ℝ) : Option (Vec3 ℝ) :=
  (shapes.position? p.shape).map fun q => q - p.previous

namespace JointedDoll

variable {d : JointedDoll ℝ} {x : ShapeId} {p v : Vec3 ℝ}

/-- The shapes of the ragdoll exist and differ, and one of them is its root. -/
structure Whole (shapes : Shapes ℝ) (d : JointedDoll ℝ) : Prop where
  distinct : d.shapes.Nodup
  present : ∀ x ∈ d.shapes, (shapes.find? x).isSome
  rooted : d.rootIndex < d.particles.length

/-- A ragdoll has been shifted by `v` as one piece, and its root is at its target.  Seen from any of
its particles nothing has happened, and if that is asked for the shift is remembered as movement
against it, less the drift. -/
structure Recentered (d : JointedDoll ℝ) (shapes : Shapes ℝ) (recording : Bool) (v : Vec3 ℝ)
    (d' : JointedDoll ℝ) (shapes' : Shapes ℝ) : Prop where
  kept : d' = { d with particles := d'.particles, movement := d'.movement }
  listed : d'.shapes = d.shapes
  arrived : d.root?.bind shapes'.position? = some (d.target - d.frame)
  moved : ∀ x ∈ d.shapes, shapes'.find? x = (shapes.find? x).map fun s => s.moveBy v
  rigid : ∀ x ∈ d.shapes, ∀ y ∈ d.shapes, ∃ p q p' q',
    shapes.position? x = some p ∧ shapes.position? y = some q ∧
    shapes'.position? x = some p' ∧ shapes'.position? y = some q' ∧ q' - p' = q - p
  untouched : ∀ x ∉ d.shapes, shapes'.find? x = shapes.find? x
  velocities : d'.particles.map (Particle.velocity? shapes') =
    d.particles.map (Particle.velocity? shapes)
  unrecorded : ¬(recording ∧ drift < v.length) → d'.movement = d.movement
  recorded : recording → drift < v.length → ∃ k : ℝ, 0 < k ∧ d'.movement - d.movement = -(v * k) ∧
    (d'.movement - d.movement).length = v.length - drift

/-! ### The offset of the root -/

theorem mem_shapes_of_root? (h : d.root? = some x) : x ∈ d.shapes := by
  obtain ⟨particle, hparticle, rfl⟩ := Option.map_eq_some_iff.1 h
  exact List.mem_map_of_mem (List.mem_of_getElem? hparticle)

theorem Whole.exists_root (h : d.Whole shapes) :
    ∃ x p, d.root? = some x ∧ shapes.position? x = some p := by
  have hroot : d.root? = some (d.particles.get ⟨d.rootIndex, h.rooted⟩).shape := by
    rw [root?, List.getElem?_eq_getElem h.rooted, Option.map_some]
    rfl
  obtain ⟨s, hs⟩ := Option.isSome_iff_exists.1 (h.present _ (mem_shapes_of_root? hroot))
  exact ⟨_, _, hroot, Shapes.position?_of_find? hs⟩

theorem rootOffset?_of_root? (hroot : d.root? = some x) (hp : shapes.position? x = some p) :
    d.rootOffset? shapes = some (d.target - d.frame - p) := by
  rw [rootOffset?, hroot, Option.bind_some, hp, Option.map_some, localTarget]

theorem recenter_of_near (hv : d.rootOffset? shapes = some v) (hnear : v.length ≤ Scalar.tolerance)
    (recording : Bool) : d.recenter recording shapes = (d, shapes) := by
  unfold recenter
  rw [hv]
  exact if_pos hnear

theorem recenter_of_far (hv : d.rootOffset? shapes = some v) (hfar : Scalar.tolerance < v.length)
    (recording : Bool) : d.recenter recording shapes =
      (if recording then (d.shift v shapes).1.remember v else (d.shift v shapes).1,
        (d.shift v shapes).2) := by
  unfold recenter
  rw [hv]
  exact if_neg hfar.not_ge

/-! ### Shifting a ragdoll -/

theorem find?_shift (hids : d.shapes.Nodup) (v : Vec3 ℝ) (x : ShapeId) :
    (d.shift v shapes).2.find? x =
      if x ∈ d.shapes then (shapes.find? x).map fun s => s.moveBy v else shapes.find? x :=
  Arena.find?_modifyAll_of_nodup _ hids shapes x

theorem position?_shift (hids : d.shapes.Nodup) (hx : x ∈ d.shapes) (v : Vec3 ℝ) :
    (d.shift v shapes).2.position? x = (shapes.position? x).map fun p => p + v := by
  rw [Shapes.position?, find?_shift hids, if_pos hx, Shapes.position?, Option.map_map,
    Option.map_map]
  rfl

/-- The past of a particle is shifted with its shape, so that its velocity stays as it is. -/
theorem velocities_shift (hids : d.shapes.Nodup) (v : Vec3 ℝ) :
    (d.shift v shapes).1.particles.map (Particle.velocity? (d.shift v shapes).2) =
      d.particles.map (Particle.velocity? shapes) := by
  have hmap : (d.shift v shapes).1.particles =
      d.particles.map fun p => { p with previous := p.previous + v } := rfl
  rw [hmap, List.map_map]
  refine List.map_congr_left fun particle hparticle => ?_
  have hx : particle.shape ∈ d.shapes := List.mem_map_of_mem hparticle
  rw [Function.comp_apply, Particle.velocity?, position?_shift hids hx, Particle.velocity?,
    Option.map_map]
  refine congrArg (fun f => (shapes.position? particle.shape).map f) (funext fun q => ?_)
  exact add_sub_add_right_eq_sub q particle.previous v

/-! ### What is remembered -/

theorem remember_kept (d : JointedDoll ℝ) (v : Vec3 ℝ) :
    d.remember v = { d with movement := (d.remember v).movement } := by
  unfold remember
  split <;> rfl

theorem movement_remember_of_not_lt (h : ¬drift < v.length) :
    (d.remember v).movement = d.movement := by
  rw [remember, if_neg h]

/-- The movement is opposed to the shift, and shorter by the drift. -/
theorem movement_remember (h : drift < v.length) : ∃ k : ℝ, 0 < k ∧
    (d.remember v).movement - d.movement = -(v * k) ∧
    ((d.remember v).movement - d.movement).length = v.length - drift := by
  have hdrift : (0 : ℝ) < drift := by norm_num [drift]
  have hv : 0 < v.length := hdrift.trans h
  have hk : 0 < 1 - drift / v.length := sub_pos.2 ((div_lt_one hv).2 h)
  have hmovement : (d.remember v).movement - d.movement = -(v * (1 - drift / v.length)) := by
    rw [remember, if_pos h]
    exact sub_sub_cancel_left _ _
  refine ⟨1 - drift / v.length, hk, hmovement, ?_⟩
  rw [hmovement, Vec3.length_neg, Vec3.length_mul, abs_of_pos hk, mul_sub, mul_one,
    mul_div_cancel₀ _ hv.ne']

/-! ### Recentring -/

/-- The ragdoll after a shift by `v`, with its movement. -/
theorem recentered_of_shift (h : d.Whole shapes) (hv : d.rootOffset? shapes = some v)
    {recording : Bool} {d' : JointedDoll ℝ}
    (hd' : d' = { (d.shift v shapes).1 with movement := d'.movement })
    (hunrecorded : ¬(recording ∧ drift < v.length) → d'.movement = d.movement)
    (hrecorded : recording → drift < v.length → ∃ k : ℝ, 0 < k ∧
      d'.movement - d.movement = -(v * k) ∧
      (d'.movement - d.movement).length = v.length - drift) :
    Recentered d shapes recording v d' (d.shift v shapes).2 := by
  have hparticles : d'.particles = (d.shift v shapes).1.particles := by rw [hd']
  obtain ⟨x, p, hroot, hp⟩ := h.exists_root
  obtain rfl := Option.some.inj ((rootOffset?_of_root? hroot hp).symm.trans hv)
  refine ⟨?_, ?_, ?_, ?_, ?_, ?_, ?_, hunrecorded, hrecorded⟩
  · rw [hparticles]
    exact hd'
  · rw [JointedDoll.shapes, hparticles]
    exact List.map_map
  · rw [hroot, Option.bind_some, position?_shift h.distinct (mem_shapes_of_root? hroot), hp,
      Option.map_some, add_sub_cancel]
  · intro y hy
    rw [find?_shift h.distinct, if_pos hy]
  · intro y hy z hz
    obtain ⟨s, hs⟩ := Option.isSome_iff_exists.1 (h.present y hy)
    obtain ⟨t, ht⟩ := Option.isSome_iff_exists.1 (h.present z hz)
    have hp' := Shapes.position?_of_find? hs
    have hq' := Shapes.position?_of_find? ht
    refine ⟨_, _, s.position + (d.target - d.frame - p), t.position + (d.target - d.frame - p),
      hp', hq', ?_, ?_, ?_⟩
    · rw [position?_shift h.distinct hy, hp', Option.map_some]
    · rw [position?_shift h.distinct hz, hq', Option.map_some]
    · exact add_sub_add_right_eq_sub _ _ _
  · intro y hy
    rw [find?_shift h.distinct, if_neg hy]
  · rw [hparticles]
    exact velocities_shift h.distinct _

theorem recentered_recenter (h : d.Whole shapes) (hv : d.rootOffset? shapes = some v)
    (hfar : Scalar.tolerance < v.length) (recording : Bool) :
    Recentered d shapes recording v (d.recenter recording shapes).1
      (d.recenter recording shapes).2 := by
  rw [recenter_of_far hv hfar]
  cases recording with
  | false => exact recentered_of_shift h hv rfl (fun _ => rfl) nofun
  | true =>
    refine recentered_of_shift h hv (remember_kept _ v) (fun hshort => ?_) fun _ => ?_
    · exact movement_remember_of_not_lt fun hlong => hshort ⟨rfl, hlong⟩
    · exact movement_remember

theorem root?_eq_getElem? (d : JointedDoll ℝ) : d.root? = d.shapes[d.rootIndex]? :=
  List.getElem?_map.symm

theorem Recentered.root?_eq {recording : Bool} {d' : JointedDoll ℝ} {shapes' : Shapes ℝ}
    (h : Recentered d shapes recording v d' shapes') : d'.root? = d.root? := by
  rw [root?_eq_getElem?, root?_eq_getElem?, h.listed, h.kept]

/-- A second shift changes nothing, whether or not the shifts are recorded. -/
theorem recenter_recenter (h : d.Whole shapes) (recording again : Bool) :
    (d.recenter recording shapes).1.recenter again (d.recenter recording shapes).2 =
      d.recenter recording shapes := by
  obtain ⟨x, p, hroot, hp⟩ := h.exists_root
  have hv := rootOffset?_of_root? hroot hp
  by_cases hnear : (d.target - d.frame - p).length ≤ Scalar.tolerance
  · rw [recenter_of_near hv hnear recording]
    exact recenter_of_near hv hnear again
  have hdone := recentered_recenter h hv (not_le.1 hnear) recording
  generalize d.recenter recording shapes = after at hdone ⊢
  have harrived : after.1.rootOffset? after.2 = some 0 := by
    have hplaced := hdone.arrived
    rw [hroot, Option.bind_some] at hplaced
    rw [rootOffset?_of_root? ((hdone.root?_eq).trans hroot) hplaced, hdone.kept, sub_self]
  refine recenter_of_near harrived ?_ again
  rw [Vec3.length_zero]
  exact Scalar.tolerance_pos.le

/-- However far away its root was, it is near its target then. -/
theorem near_recenter (h : d.Whole shapes) (recording : Bool) : ∃ x p, d.root? = some x ∧
    (d.recenter recording shapes).2.position? x = some p ∧
    p.distance (d.target - d.frame) ≤ Scalar.tolerance := by
  obtain ⟨x, p, hroot, hp⟩ := h.exists_root
  have hv := rootOffset?_of_root? hroot hp
  by_cases hnear : (d.target - d.frame - p).length ≤ Scalar.tolerance
  · refine ⟨x, p, hroot, ?_, ?_⟩
    · rwa [recenter_of_near hv hnear]
    · rwa [Vec3.distance_comm]
  · have harrived := (recentered_recenter h hv (not_le.1 hnear) recording).arrived
    rw [hroot, Option.bind_some] at harrived
    refine ⟨x, _, hroot, harrived, ?_⟩
    rw [Vec3.distance_self]
    exact Scalar.tolerance_pos.le

end JointedDoll

end RagdollDynamics
