import RagdollDynamics.Proofs.Exact.Real
import RagdollDynamics.Proofs.Frame.Footprint

/-!
# Bodies at rest

An entity is at rest if it cannot move, or neither moves nor is pushed.  A ragdoll is at rest if
nothing pulls its particles from where they were, its joints hold and its root is at its target.
Nothing that a step does to such a body moves a shape, and no error is found in its joints.
-/

namespace RagdollDynamics

variable {shapes : Shapes ℝ}

theorem Shapes.position?_of_find? {id : ShapeId} {s : Shape ℝ} (h : shapes.find? id = some s) :
    shapes.position? id = some s.position := by
  rw [Shapes.position?, h]
  rfl

/-! ### Joints -/

namespace Joint

/-- The joint holds: the distance is the length of the rod up to the slack, or the shape is at its
anchor.  Missing shapes break no joint. -/
def Holds (shapes : Shapes ℝ) : Joint ℝ → Prop
  | rod a b length => ∀ p q, shapes.position? a = some p → shapes.position? b = some q →
      |p.distance q - length| < slack
  | pin shape anchor => ∀ p, shapes.position? shape = some p → p = anchor

theorem enforceRod_of_holds {a b : ShapeId} {length : ℝ} (holds : (rod a b length).Holds shapes) :
    enforceRod a b length shapes = (0, shapes) := by
  unfold enforceRod
  by_cases same : a = b
  · rw [if_pos same]
  rw [if_neg same]
  cases hs : shapes.find? a with
  | none => rfl
  | some s =>
    cases ht : shapes.find? b with
    | none => rfl
    | some t =>
      have near : |s.position.distance t.position - length| < slack :=
        holds _ _ (Shapes.position?_of_find? hs) (Shapes.position?_of_find? ht)
      have small : Scalar.abs ((t.position - s.position).length - length) < slack := by
        rwa [Scalar.abs_real, ← Vec3.distance, Vec3.distance_comm]
      exact if_pos small

theorem enforcePin_of_holds {shape : ShapeId} {anchor : Vec3 ℝ}
    (holds : (pin shape anchor).Holds shapes) : enforcePin shape anchor shapes = (0, shapes) := by
  unfold enforcePin
  cases hp : shapes.position? shape with
  | none => rfl
  | some p =>
    have placed : shapes.modify shape (fun x => { x with position := anchor }) = shapes := by
      refine Arena.modify_eq_self fun x hx => ?_
      rw [← holds _ (Shapes.position?_of_find? hx)]
    simp only [placed, holds p hp, Vec3.distance_self]

theorem enforce_of_holds {j : Joint ℝ} (holds : j.Holds shapes) :
    j.enforce shapes = (0, shapes) := by
  cases j with
  | rod a b length => exact enforceRod_of_holds holds
  | pin shape anchor => exact enforcePin_of_holds holds

theorem enforceAll_of_holds {js : List (Joint ℝ)} (holds : ∀ j ∈ js, j.Holds shapes) :
    enforceAll js shapes = (js.map fun _ => 0, shapes) := by
  induction js with
  | nil => rfl
  | cons j rest ih =>
    simp only [enforceAll, enforce_of_holds (holds j List.mem_cons_self),
      ih fun k hk => holds k (List.mem_cons_of_mem j hk), List.map_cons]

end Joint

/-! ### Ragdolls -/

/-- Without acceleration a point that did not move stays. -/
theorem Verlet.advance_of_still (damping dt : ℝ) (p : Vec3 ℝ) :
    advance 0 damping dt ⟨p, p⟩ = ⟨p, p⟩ := by
  simp only [advance, velocity, sub_self, Vec3.zero_mul, add_zero]

namespace Particle

/-- The particle did not move in the last step. -/
def AtRest (shapes : Shapes ℝ) (p : Particle ℝ) : Prop :=
  ∀ q, shapes.position? p.shape = some q → p.previous = q

theorem step_of_atRest {p : Particle ℝ} (rest : p.AtRest shapes) (damping dt : ℝ) :
    p.step 0 damping dt shapes = (p, shapes) := by
  unfold step
  cases hs : shapes.find? p.shape with
  | none => rfl
  | some s =>
    have still : s.position = p.previous := (rest _ (Shapes.position?_of_find? hs)).symm
    have placed : shapes.modify p.shape (fun s => { s with position := p.previous }) = shapes := by
      refine Arena.modify_eq_self fun x hx => ?_
      rw [← Option.some.inj (hs.symm.trans hx), ← still]
    simp only [still, Verlet.advance_of_still, placed, ite_self]

theorem stepAll_of_atRest {ps : List (Particle ℝ)} (rest : ∀ p ∈ ps, p.AtRest shapes)
    (damping dt : ℝ) : stepAll 0 damping dt ps shapes = (ps, shapes) := by
  induction ps with
  | nil => rfl
  | cons p ps ih =>
    simp only [stepAll, step_of_atRest (rest p List.mem_cons_self),
      ih fun q hq => rest q (List.mem_cons_of_mem p hq)]

end Particle

namespace JointedDoll

/-- Nothing pulls the ragdoll or shifts it, seen from a frame at `origin`. -/
structure AtRest (origin : Vec3 ℝ) (shapes : Shapes ℝ) (d : JointedDoll ℝ) : Prop where
  weightless : d.gravity = 0
  still : ∀ p ∈ d.particles, p.AtRest shapes
  held : ∀ j ∈ d.joints, j.Holds shapes
  rooted : ∀ p, d.root?.bind shapes.position? = some p → p = d.target - origin

variable {origin : Vec3 ℝ} {d : JointedDoll ℝ} (rest : d.AtRest origin shapes)
include rest

theorem step_of_atRest (dt : ℝ) : d.step dt shapes = (d, shapes) := by
  have moved : Particle.stepAll d.gravity d.damping dt d.particles shapes
      = (d.particles, shapes) := by
    rw [rest.weightless]
    exact Particle.stepAll_of_atRest rest.still d.damping dt
  rw [step, moved]

theorem enforce_of_atRest : d.enforce shapes = (0, shapes) := by
  have none : Scalar.greatest (d.joints.map fun _ => (0 : ℝ)) = 0 :=
    Scalar.greatest_eq_zero fun x hx => by simp_all
  simp only [enforce, Joint.enforceAll_of_holds rest.held, none]

theorem recenter_of_atRest (recording : Bool) :
    JointedDoll.recenter { d with frame := origin } recording shapes
      = ({ d with frame := origin }, shapes) := by
  unfold recenter rootOffset? localTarget
  cases hp : JointedDoll.root? { d with frame := origin } |>.bind shapes.position? with
  | none => rfl
  | some p =>
    have there : d.target - origin - p = 0 := by rw [rest.rooted p hp, sub_self]
    have short : (d.target - origin - p).length ≤ Scalar.tolerance := by
      rw [there, Vec3.length_zero]
      norm_num [Scalar.tolerance]
    exact if_pos short

end JointedDoll

namespace Ragdoll

/-- Nothing pulls a ragdoll or shifts it, and a puppet reports no error. -/
def AtRest (origin : Vec3 ℝ) (shapes : Shapes ℝ) : Ragdoll ℝ → Prop
  | jointed d => d.AtRest origin shapes
  | puppet d => d.error ≤ 0

/-- The ragdoll may have been told where the frame of its shapes sits. -/
def Framed (origin : Vec3 ℝ) (r r' : Ragdoll ℝ) : Prop := r' = r ∨ r' = r.inFrame origin

variable {origin : Vec3 ℝ} {r r' : Ragdoll ℝ}

instance : Std.Refl (Framed origin) := ⟨fun _ => .inl rfl⟩

theorem inFrame_inFrame : (r.inFrame origin).inFrame origin = r.inFrame origin := by cases r <;> rfl

instance : IsTrans (Ragdoll ℝ) (Framed origin) where
  trans r _ _ h₁ h₂ := by
    rcases h₁ with rfl | rfl
    · exact h₂
    · exact .inr (h₂.elim id fun h => h.trans inFrame_inFrame)

theorem AtRest.of_framed (rest : r.AtRest origin shapes) (h : Framed origin r r') :
    r'.AtRest origin shapes := by
  rcases h with rfl | rfl
  · exact rest
  · cases r with
    | jointed d => exact ⟨rest.weightless, rest.still, rest.held, rest.rooted⟩
    | puppet d => exact rest

section AtRest

variable (rest : r.AtRest origin shapes)
include rest

theorem step_of_atRest (dt : ℝ) : r.step dt shapes = (r, shapes) := by
  cases r with
  | jointed d => simp only [step, JointedDoll.step_of_atRest rest]
  | puppet d => rfl

theorem enforce_of_atRest : (r.enforce shapes).1 ≤ 0 ∧ (r.enforce shapes).2 = shapes := by
  cases r with
  | jointed d =>
    have none : (jointed d).enforce shapes = (0, shapes) := JointedDoll.enforce_of_atRest rest
    rw [none]
    exact ⟨le_refl 0, rfl⟩
  | puppet d => exact ⟨rest, rfl⟩

theorem recenter_of_atRest (recording : Bool) :
    (r.inFrame origin).recenter recording shapes = (r.inFrame origin, shapes) := by
  cases r with
  | jointed d => simp only [inFrame, recenter, JointedDoll.recenter_of_atRest rest]
  | puppet d => rfl

end AtRest

end Ragdoll

/-! ### Entities -/

namespace Entity

/-- The entity cannot move, or it neither moves nor is pushed. -/
def AtRest : Entity ℝ → Prop
  | rigid b => b.inverseMass = 0 ∨ b.velocity = 0 ∧ b.force = 0
  | scenery _ => True

noncomputable def clearForce : Entity ℝ → Entity ℝ
  | rigid b => rigid b.clearForce
  | scenery ids => scenery ids

/-- Applied forces may have been forgotten. -/
def Calmed (e e' : Entity ℝ) : Prop := e' = e ∨ e' = e.clearForce

variable {e e' : Entity ℝ}

theorem clearForce_clearForce : e.clearForce.clearForce = e.clearForce := by cases e <;> rfl

instance : Std.Refl Calmed := ⟨fun _ => .inl rfl⟩

instance : IsTrans (Entity ℝ) Calmed where
  trans e _ _ h₁ h₂ := by
    rcases h₁ with rfl | rfl
    · exact h₂
    · exact .inr (h₂.elim id fun h => h.trans clearForce_clearForce)

theorem Calmed.shapes_eq (h : Calmed e e') : e'.shapes = e.shapes := by
  rcases h with rfl | rfl
  · rfl
  · cases e <;> rfl

theorem Calmed.allows_eq (h : Calmed e e') : e'.allows = e.allows := by
  rcases h with rfl | rfl
  · rfl
  · cases e <;> rfl

theorem AtRest.of_calmed (rest : e.AtRest) (h : Calmed e e') : e'.AtRest := by
  rcases h with rfl | rfl
  · exact rest
  · cases e with
    | rigid b => exact rest.imp_right fun still => ⟨still.1, rfl⟩
    | scenery ids => exact rest

/-- A body at rest stays where it is for any time, and only forgets what was pushed in vain. -/
theorem step_of_atRest (rest : e.AtRest) (dt : ℝ) : e.step dt shapes = (e.clearForce, shapes) := by
  cases e with
  | scenery ids => rfl
  | rigid b =>
    have still (moves : ¬(b.inverseMass == 0) = true) : b.velocity = 0 ∧ b.force = 0 :=
      rest.resolve_left fun fixed => moves (beq_iff_eq.2 fixed)
    have accelerated : b.accelerate dt = b.clearForce := by
      unfold RigidBody.accelerate
      split
      · rfl
      next moves =>
        simp only [still moves, Vec3.zero_mul, add_zero, RigidBody.clearForce]
    have displaced : b.clearForce.displacement dt = 0 := by
      unfold RigidBody.displacement
      split
      · rfl
      next moves =>
        simp only [RigidBody.clearForce, still moves, Vec3.zero_mul]
    simp only [step, RigidBody.step, accelerated, displaced, beq_self_eq_true, ↓reduceIte,
      clearForce]

end Entity

end RagdollDynamics
