import Mathlib.Algebra.Ring.GeomSum
import RagdollDynamics.Proofs.Exact.Real
import RagdollDynamics.Proofs.Frame.Bodies

/-!
# Trajectories of particles

A point that is advanced any number of times by the same law has its displacements in closed form:
a geometric sequence, and a geometric sum of accelerations (`Verlet.velocity_iterate`).  The
particles of a ragdoll do not notice each other, so that each of them is stepped as if it were alone
(`Particle.Carries.stepAll`), whether its shape can move or not, and the closed form is that of
every particle of a movable shape (`JointedDoll.trajectories_in_closed_form`).
-/

namespace RagdollDynamics

/-! ### Points in closed form -/

namespace Verlet

section ClosedForm

variable (gravity : Vec3 ℝ) (damping dt : ℝ)

/-- The displacement of a point in its `n`-th step, where `v` was the one before the first step:
what damping leaves of `v`, and what it leaves of the accelerations of the steps so far. -/
noncomputable def stride (v : Vec3 ℝ) (n : ℕ) : Vec3 ℝ :=
  v * damping ^ n + gravity * (dt * dt) * ∑ i ∈ Finset.range n, damping ^ i

theorem stride_zero (v : Vec3 ℝ) : stride gravity damping dt v 0 = v := by
  refine Vec3.ext ?_ ?_ ?_ <;> simp [stride, Vec3.add_def, Vec3.mul_def]

theorem stride_succ (v : Vec3 ℝ) (n : ℕ) : stride gravity damping dt v (n + 1) =
    stride gravity damping dt v n * damping + gravity * (dt * dt) := by
  refine Vec3.ext ?_ ?_ ?_ <;>
    · simp only [stride, Vec3.add_def, Vec3.mul_def, geom_sum_succ, pow_succ]
      ring

theorem velocity_advance (p : Verlet ℝ) : (advance gravity damping dt p).velocity =
    p.velocity * damping + gravity * (dt * dt) := add_sub_cancel_left _ _

theorem position_advance (p : Verlet ℝ) : (advance gravity damping dt p).position =
    p.position + (advance gravity damping dt p).velocity := by
  rw [velocity_advance]
  rfl

theorem velocity_iterate (p : Verlet ℝ) (n : ℕ) : ((advance gravity damping dt)^[n] p).velocity =
    stride gravity damping dt p.velocity n := by
  induction n with
  | zero => exact (stride_zero gravity damping dt p.velocity).symm
  | succ n ih => rw [Function.iterate_succ_apply', velocity_advance, ih, stride_succ]

theorem position_iterate (p : Verlet ℝ) (n : ℕ) : ((advance gravity damping dt)^[n] p).position =
    p.position + ∑ k ∈ Finset.range n, stride gravity damping dt p.velocity (k + 1) := by
  induction n with
  | zero => simp
  | succ n ih =>
    rw [Function.iterate_succ_apply', position_advance,
      ← Function.iterate_succ_apply' (advance gravity damping dt), velocity_iterate, ih,
      Finset.sum_range_succ, add_assoc]

theorem previous_iterate (p : Verlet ℝ) (n : ℕ) :
    ((advance gravity damping dt)^[n + 1] p).previous =
      ((advance gravity damping dt)^[n] p).position := by
  rw [Function.iterate_succ_apply']
  rfl

end ClosedForm

variable {K : Type} [Scalar K]

def hold (p : Verlet K) : Verlet K := ⟨p.position, p.position⟩

omit [Scalar K] in
theorem iterate_hold (p : Verlet K) (n : ℕ) : hold^[n + 1] p = p.hold := by
  rw [Function.iterate_succ_apply]
  exact Function.iterate_fixed rfl n

omit [Scalar K] in
theorem position_iterate_hold (p : Verlet K) (n : ℕ) : (hold^[n] p).position = p.position := by
  cases n with
  | zero => rfl
  | succ n => rw [iterate_hold, hold]

end Verlet

/-! ### Particles by themselves -/

variable {K : Type} [Scalar K]

/-- What a step does to a particle of a shape. -/
def Shape.course (s : Shape K) (gravity : Vec3 K) (damping dt : K) : Verlet K → Verlet K :=
  if s.isImmovable then .hold else .advance gravity damping dt

namespace Particle

variable {ps : List (Particle K)} {shapes : Shapes K} {i : ℕ} {x : ShapeId} {s : Shape K}
  {p : Verlet K} (gravity : Vec3 K) (damping dt : K)

/-- The `i`-th particle belongs to the shape under `x`, and the two have come to where `p` is; apart
from that the shape is still `s`. -/
structure Carries (ps : List (Particle K)) (shapes : Shapes K) (i : ℕ) (x : ShapeId) (s : Shape K)
    (p : Verlet K) : Prop where
  particle : ps[i]? = some ⟨x, p.previous⟩
  shape : shapes.find? x = some { s with position := p.position }

/-- A particle that is stepped follows the course of its shape. -/
theorem step_of_find? (hs : shapes.find? x = some { s with position := p.position }) :
    ((⟨x, p.previous⟩ : Particle K).step gravity damping dt shapes).1 =
        ⟨x, (s.course gravity damping dt p).previous⟩ ∧
      ((⟨x, p.previous⟩ : Particle K).step gravity damping dt shapes).2.find? x =
        some { s with position := (s.course gravity damping dt p).position } := by
  have hfixed : Shape.isImmovable { s with position := p.position } = s.isImmovable := rfl
  unfold step Shape.course
  rw [hs]
  dsimp only
  rw [hfixed]
  split
  · exact ⟨rfl, hs⟩
  · exact ⟨rfl, by rw [Arena.find?_modify_self, hs, Option.map_some]⟩

theorem find?_step_of_ne {q : Particle K} (hx : x ≠ q.shape) :
    (q.step gravity damping dt shapes).2.find? x = shapes.find? x :=
  ((confined_step (F := [q.shape]) List.mem_cons_self gravity damping dt).changed shapes
    trivial).find?_eq fun hmem => hx (List.mem_singleton.1 hmem)

theorem find?_stepAll_of_notMem (hx : x ∉ ps.map Particle.shape) :
    (stepAll gravity damping dt ps shapes).2.find? x = shapes.find? x :=
  ((confined_stepAll gravity damping dt (List.Subset.refl _)).changed shapes trivial).find?_eq hx

omit [Scalar K] in
theorem Carries.mem (h : Carries ps shapes i x s p) : x ∈ ps.map Particle.shape :=
  List.mem_map_of_mem (List.mem_of_getElem? h.particle)

/-- **Particles of different shapes are stepped independently**: each of them follows its own
course. -/
theorem Carries.stepAll (hids : (ps.map Particle.shape).Nodup) (h : Carries ps shapes i x s p) :
    Carries (stepAll gravity damping dt ps shapes).1 (stepAll gravity damping dt ps shapes).2 i x s
      (s.course gravity damping dt p) := by
  induction ps generalizing shapes i with
  | nil => exact absurd h.mem List.not_mem_nil
  | cons q rest ih =>
    obtain ⟨hfresh, hrest⟩ := List.nodup_cons.1 hids
    cases i with
    | zero =>
      obtain rfl : q = ⟨x, p.previous⟩ := Option.some.inj h.particle
      obtain ⟨hpast, hplaced⟩ := step_of_find? gravity damping dt h.shape
      refine ⟨congrArg some hpast, ?_⟩
      -- the particles after this one have other shapes
      exact (find?_stepAll_of_notMem gravity damping dt hfresh).trans hplaced
    | succ i =>
      have hlater : x ∈ rest.map Particle.shape := Carries.mem ⟨h.particle, h.shape⟩
      have hne : x ≠ q.shape := fun heq => hfresh (heq ▸ hlater)
      have hwaiting : Carries rest (q.step gravity damping dt shapes).2 i x s p :=
        ⟨h.particle, (find?_step_of_ne gravity damping dt hne).trans h.shape⟩
      obtain ⟨hpast, hplaced⟩ := ih hrest hwaiting
      exact ⟨hpast, hplaced⟩

end Particle

/-! ### Ragdolls over many steps -/

namespace JointedDoll

variable {d : JointedDoll K} {shapes : Shapes K} {dt : K} {i : ℕ} {x : ShapeId} {s : Shape K}
  {p : Verlet K}

def after (d : JointedDoll K) (dt : K) (shapes : Shapes K) : ℕ → JointedDoll K × Shapes K
  | 0 => (d, shapes)
  | n + 1 => (after d dt shapes n).1.step dt (after d dt shapes n).2

theorem shapes_step (d : JointedDoll K) (dt : K) (shapes : Shapes K) :
    (d.step dt shapes).1.shapes = d.shapes :=
  Particle.map_shape_stepAll d.gravity d.damping dt d.particles shapes

theorem shapes_after (n : ℕ) : (d.after dt shapes n).1.shapes = d.shapes := by
  induction n with
  | zero => rfl
  | succ n ih => exact (shapes_step _ dt _).trans ih

/-- Steps change nothing of a ragdoll but the past of its particles. -/
theorem after_kept (n : ℕ) : (d.after dt shapes n).1 =
    { d with particles := (d.after dt shapes n).1.particles } := by
  induction n with
  | zero => rfl
  | succ n ih =>
    have hstep : (d.after dt shapes (n + 1)).1 =
        { (d.after dt shapes n).1 with particles := (d.after dt shapes (n + 1)).1.particles } := rfl
    rw [hstep, ih]

theorem after_succ (n : ℕ) : d.after dt shapes (n + 1) =
    let moved := Particle.stepAll d.gravity d.damping dt (d.after dt shapes n).1.particles
      (d.after dt shapes n).2
    ({ d with particles := moved.1 }, moved.2) := by
  rw [after, after_kept]
  rfl

theorem find?_after_of_notMem (hx : x ∉ d.shapes) (n : ℕ) :
    (d.after dt shapes n).2.find? x = shapes.find? x := by
  induction n with
  | zero => rfl
  | succ n ih =>
    have hout : x ∉ (d.after dt shapes n).1.shapes := by rwa [shapes_after]
    exact (Particle.find?_stepAll_of_notMem _ _ dt hout).trans ih

/-- Each particle of a ragdoll follows its own course, step by step. -/
theorem carries_after (hids : d.shapes.Nodup) (h : Particle.Carries d.particles shapes i x s p)
    (n : ℕ) : Particle.Carries (d.after dt shapes n).1.particles (d.after dt shapes n).2 i x s
      ((s.course d.gravity d.damping dt)^[n] p) := by
  induction n with
  | zero => exact h
  | succ n ih =>
    have hdistinct : (d.after dt shapes n).1.shapes.Nodup := by rwa [shapes_after]
    rw [after_succ, Function.iterate_succ_apply']
    exact ih.stepAll d.gravity d.damping dt hdistinct

/-- **Points and particles move in closed form**, over any number of steps.  A point that is advanced
remembers where it was a step ago; its displacement is what damping leaves of the first one and of
the accelerations since, and it is where its displacements add up to.  The particles of a ragdoll
over different shapes are advanced as such points if their shapes can move.  An immovable shape stays
and its particle comes to it.  Nothing else changes, neither of the ragdoll nor among the shapes. -/
theorem trajectories_in_closed_form :
    (∀ (gravity : Vec3 ℝ) (damping dt : ℝ) (p : Verlet ℝ) (n : ℕ),
      ((Verlet.advance gravity damping dt)^[n + 1] p).previous =
        ((Verlet.advance gravity damping dt)^[n] p).position ∧
      ((Verlet.advance gravity damping dt)^[n] p).velocity =
        Verlet.stride gravity damping dt p.velocity n ∧
      ((Verlet.advance gravity damping dt)^[n] p).position =
        p.position + ∑ k ∈ Finset.range n, Verlet.stride gravity damping dt p.velocity (k + 1)) ∧
    ∀ (d : JointedDoll ℝ) (shapes : Shapes ℝ) (dt : ℝ) (n : ℕ), d.shapes.Nodup →
      (∀ i x v s, d.particles[i]? = some ⟨x, v⟩ → shapes.find? x = some s →
        (¬s.isImmovable →
          Particle.Carries (d.after dt shapes n).1.particles (d.after dt shapes n).2 i x s
            ((Verlet.advance d.gravity d.damping dt)^[n] ⟨s.position, v⟩)) ∧
        (s.isImmovable → (d.after dt shapes n).2.find? x = some s ∧
          (d.after dt shapes (n + 1)).1.particles[i]? = some ⟨x, s.position⟩)) ∧
      (d.after dt shapes n).1.shapes = d.shapes ∧
      (d.after dt shapes n).1 = { d with particles := (d.after dt shapes n).1.particles } ∧
      ∀ x ∉ d.shapes, (d.after dt shapes n).2.find? x = shapes.find? x := by
  constructor
  · intro gravity damping dt p n
    exact ⟨Verlet.previous_iterate gravity damping dt p n,
      Verlet.velocity_iterate gravity damping dt p n, Verlet.position_iterate gravity damping dt p n⟩
  · intro d shapes dt n hids
    refine ⟨fun i x v s hparticle hs => ?_, shapes_after n, after_kept n,
      fun x hx => find?_after_of_notMem hx n⟩
    have hstart : Particle.Carries d.particles shapes i x s ⟨s.position, v⟩ := ⟨hparticle, hs⟩
    constructor
    · intro hmoves
      have hcourse : s.course d.gravity d.damping dt = .advance d.gravity d.damping dt :=
        if_neg hmoves
      rw [← hcourse]
      exact carries_after hids hstart n
    · intro hfixed
      have hcourse : s.course d.gravity d.damping dt = .hold := if_pos hfixed
      have hcarries (n : ℕ) : Particle.Carries (d.after dt shapes n).1.particles
          (d.after dt shapes n).2 i x s (Verlet.hold^[n] ⟨s.position, v⟩) := by
        rw [← hcourse]
        exact carries_after hids hstart n
      constructor
      · have hplaced := (hcarries n).shape
        rwa [Verlet.position_iterate_hold] at hplaced
      · have hpast := (hcarries (n + 1)).particle
        rwa [Verlet.iterate_hold] at hpast

noncomputable def bulb : Shape ℝ := .ofForm (.sphere 1) 1

noncomputable def hook : Shape ℝ := (Shape.ofForm (.sphere 1) 0).moveBy .up

/-- A ball that is falling below one that cannot move, of which the past is out of date. -/
noncomputable def lamp : JointedDoll ℝ :=
  { JointedDoll.atRest [⟨0⟩, ⟨1⟩] ⟨#[bulb, hook]⟩ with
    particles := [⟨⟨0⟩, .up⟩, ⟨⟨1⟩, 0⟩]
    gravity := .down
    damping := 0.5 }

/-- The first ball falls on, and the second one stays. -/
theorem trajectories_in_closed_form_of_lamp :
    lamp.shapes.Nodup ∧ ¬bulb.isImmovable ∧ hook.isImmovable ∧
    Particle.Carries (lamp.after 2 ⟨#[bulb, hook]⟩ 2).1.particles
      (lamp.after 2 ⟨#[bulb, hook]⟩ 2).2 0 ⟨0⟩ bulb ⟨⟨0, -43 / 4, 0⟩, ⟨0, -9 / 2, 0⟩⟩ ∧
    (lamp.after 2 ⟨#[bulb, hook]⟩ 2).2.find? ⟨1⟩ = some hook ∧
    (lamp.after 2 ⟨#[bulb, hook]⟩ 2).1.particles[1]? = some ⟨⟨1⟩, hook.position⟩ := by
  have hids : lamp.shapes.Nodup := by decide
  have hmoves : ¬bulb.isImmovable := by
    norm_num [Shape.isImmovable, Shape.inverseMass, Shape.effectiveMass, bulb, Shape.ofForm,
      Scalar.isFinite]
  have hfixed : hook.isImmovable := by
    norm_num [Shape.isImmovable, Shape.inverseMass, Shape.effectiveMass, hook, Shape.ofForm,
      Shape.moveBy]
  obtain ⟨hpoint, hdoll⟩ := trajectories_in_closed_form
  obtain ⟨htwo, -⟩ := hdoll lamp ⟨#[bulb, hook]⟩ 2 2 hids
  obtain ⟨hone, -⟩ := hdoll lamp ⟨#[bulb, hook]⟩ 2 1 hids
  obtain ⟨hfalls, -⟩ := htwo 0 ⟨0⟩ .up bulb rfl rfl
  obtain ⟨-, hstays⟩ := htwo 1 ⟨1⟩ 0 hook rfl rfl
  obtain ⟨-, hcomes⟩ := hone 1 ⟨1⟩ 0 hook rfl rfl
  have hplace : ∀ n, ((Verlet.advance lamp.gravity lamp.damping 2)^[n]
      ⟨bulb.position, .up⟩).position = 0 + ∑ k ∈ Finset.range n,
        Verlet.stride .down 0.5 2 (0 - .up) (k + 1) := fun n =>
    (hpoint lamp.gravity lamp.damping 2 ⟨bulb.position, .up⟩ n).2.2
  have hfall : (Verlet.advance lamp.gravity lamp.damping 2)^[2] ⟨bulb.position, .up⟩ =
      ⟨⟨0, -43 / 4, 0⟩, ⟨0, -9 / 2, 0⟩⟩ := by
    refine Verlet.ext ?_ ?_
    · rw [hplace]
      norm_num [Verlet.stride, Finset.sum_range_succ, Vec3.add_def, Vec3.neg_def, Vec3.mul_def,
        Vec3.zero_def, Vec3.up, Vec3.down]
    · rw [(hpoint _ _ _ _ 1).1, hplace]
      norm_num [Verlet.stride, Vec3.add_def, Vec3.neg_def, Vec3.mul_def, Vec3.zero_def,
        Vec3.up, Vec3.down]
  rw [← hfall]
  exact ⟨hids, hmoves, hfixed, hfalls hmoves, (hstays hfixed).1, (hcomes hfixed).2⟩

end JointedDoll

end RagdollDynamics
