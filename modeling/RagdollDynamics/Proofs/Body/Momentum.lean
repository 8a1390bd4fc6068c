import RagdollDynamics.Proofs.Exact.Movers

/-!
# Forces and momentum

A rigid body is pushed and stepped in any order.  What its history says it should have gained in
velocity and how far it should have travelled is defined from the history alone, and compared with
what the body and its shapes do (`RigidBody.pushes_act_once`).  The bodies are those whose inverse
mass is not negative (`SoundBody`): so they are made, and so pushes and steps keep them.
-/

namespace RagdollDynamics

theorem Shape.moveBy_zero (s : Shape ℝ) : s.moveBy 0 = s :=
  congrArg (fun p => { s with position := p }) (add_zero s.position)

theorem Shape.moveBy_moveBy (s : Shape ℝ) (u v : Vec3 ℝ) :
    (s.moveBy u).moveBy v = s.moveBy (u + v) :=
  congrArg (fun p => { s with position := p }) (add_assoc s.position u v)

theorem Shapes.find?_moveBy_zero (shapes : Shapes ℝ) (ids : List ShapeId) (x : ShapeId) :
    (if x ∈ ids then (shapes.find? x).map fun s => s.moveBy 0 else shapes.find? x) =
      shapes.find? x := by
  have hid : (fun s : Shape ℝ => s.moveBy 0) = id := funext Shape.moveBy_zero
  rw [hid, Option.map_id_fun, id, ite_self]

namespace RigidBody

variable {b : RigidBody ℝ}

/-! ### One act -/

@[simp] theorem inverseMass_push (force : Vec3 ℝ) :
    (b.push force).inverseMass = b.inverseMass := by
  unfold push
  split <;> rfl

@[simp] theorem shapes_push (force : Vec3 ℝ) : (b.push force).shapes = b.shapes := by
  unfold push
  split <;> rfl

@[simp] theorem velocity_push (force : Vec3 ℝ) : (b.push force).velocity = b.velocity := by
  unfold push
  split <;> rfl

theorem force_push (hmoves : 0 < b.inverseMass) (force : Vec3 ℝ) :
    (b.push force).force = b.force + force := by
  rw [push, if_pos hmoves]

theorem push_of_fixed (hfixed : b.inverseMass = 0) (force : Vec3 ℝ) : b.push force = b :=
  if_neg hfixed.not_gt

@[simp] theorem inverseMass_accelerate (dt : ℝ) :
    (b.accelerate dt).inverseMass = b.inverseMass := by
  unfold accelerate
  split <;> rfl

@[simp] theorem shapes_accelerate (dt : ℝ) : (b.accelerate dt).shapes = b.shapes := by
  unfold accelerate
  split <;> rfl

@[simp] theorem force_accelerate (dt : ℝ) : (b.accelerate dt).force = 0 := by
  unfold accelerate
  split <;> rfl

theorem velocity_accelerate (dt : ℝ) :
    (b.accelerate dt).velocity = b.velocity + b.force * b.inverseMass * dt := by
  unfold accelerate
  split
  next hfixed =>
    rw [beq_iff_eq.1 hfixed, Vec3.mul_zero, Vec3.zero_mul, add_zero]
    rfl
  next => rfl

theorem displacement_of_pos (hmoves : 0 < b.inverseMass) (dt : ℝ) :
    b.displacement dt = b.velocity * dt := if_neg fun hfixed => hmoves.ne' (beq_iff_eq.1 hfixed)

theorem displacement_of_fixed (hfixed : b.inverseMass = 0) (dt : ℝ) : b.displacement dt = 0 :=
  if_pos (beq_iff_eq.2 hfixed)

/-- A step moves every shape of the body alike, and no other one. -/
theorem find?_step (hids : b.shapes.Nodup) (dt : ℝ) (shapes : Shapes ℝ) (x : ShapeId) :
    (b.step dt shapes).2.find? x =
      if x ∈ b.shapes then
        (shapes.find? x).map fun s => s.moveBy ((b.accelerate dt).displacement dt)
      else shapes.find? x := by
  unfold step
  dsimp only
  split
  next hstill =>
    rw [beq_iff_eq.1 hstill]
    exact (Shapes.find?_moveBy_zero shapes b.shapes x).symm
  next =>
    rw [shapes_accelerate]
    exact Arena.find?_modifyAll_of_nodup _ hids shapes x

theorem inverseMass_ofMass_nonneg (mass : ℝ) (ids : List ShapeId) :
    0 ≤ (ofMass mass ids).inverseMass := by
  unfold ofMass
  dsimp only
  split
  next hmass => exact (one_div_pos.2 hmass).le
  next => exact le_refl 0

/-! ### Histories -/

inductive Act where
  | push (force : Vec3 ℝ)
  | step (dt : ℝ)

namespace Act

/-- The sum of the pushes since the last step; before the first one there is `start` too. -/
noncomputable def sinceStep (start : Vec3 ℝ) : List Act → Vec3 ℝ
  | [] => start
  | push force :: past => sinceStep start past + force
  | step _ :: _ => 0

/-- The sum over the steps of a history of a quantity that depends on what was done before the step
and on its length. -/
noncomputable def overSteps (quantity : List Act → ℝ → Vec3 ℝ) : List Act → Vec3 ℝ
  | [] => 0
  | push _ :: past => overSteps quantity past
  | step dt :: past => overSteps quantity past + quantity past dt

theorem overSteps_eq_zero {quantity : List Act → ℝ → Vec3 ℝ} (h : ∀ past dt, quantity past dt = 0)
    (past : List Act) : overSteps quantity past = 0 := by
  induction past with
  | nil => rfl
  | cons a past ih =>
    cases a with
    | push force => exact ih
    | step dt => rw [overSteps, ih, h, add_zero]

end Act

end RigidBody

/-! ### Sound bodies -/

/-- A body whose inverse mass is not negative. -/
structure SoundBody extends RigidBody ℝ where
  inverseMass_nonneg : 0 ≤ inverseMass

namespace SoundBody

open RigidBody

noncomputable def ofMass (mass : ℝ) (shapes : List ShapeId) : SoundBody where
  toRigidBody := .ofMass mass shapes
  inverseMass_nonneg := inverseMass_ofMass_nonneg mass shapes

noncomputable def push (b : SoundBody) (force : Vec3 ℝ) : SoundBody where
  toRigidBody := b.toRigidBody.push force
  inverseMass_nonneg := (inverseMass_push force).symm ▸ b.inverseMass_nonneg

noncomputable def step (b : SoundBody) (dt : ℝ) (shapes : Shapes ℝ) : SoundBody × Shapes ℝ :=
  (⟨(b.toRigidBody.step dt shapes).1, (inverseMass_accelerate dt).symm ▸ b.inverseMass_nonneg⟩,
    (b.toRigidBody.step dt shapes).2)

noncomputable def act (now : SoundBody × Shapes ℝ) : Act → SoundBody × Shapes ℝ
  | .push force => (now.1.push force, now.2)
  | .step dt => now.1.step dt now.2

/-- A body and the shapes of its world after a history, the latest act of which stands first. -/
noncomputable def after (b : SoundBody) (shapes : Shapes ℝ) : List Act → SoundBody × Shapes ℝ
  | [] => (b, shapes)
  | a :: past => act (after b shapes past) a

variable {b : SoundBody} {shapes : Shapes ℝ} {x : ShapeId}

/-- What pushes and steps keep of a body, a history keeps of it. -/
theorem kept_after {β : Type} {f : RigidBody ℝ → β} (hpush : ∀ b force, f (b.push force) = f b)
    (hstep : ∀ b dt, f (b.accelerate dt) = f b) (past : List Act) :
    f (b.after shapes past).1.toRigidBody = f b.toRigidBody := by
  induction past with
  | nil => rfl
  | cons a past ih =>
    cases a with
    | push force => exact (hpush _ force).trans ih
    | step dt => exact (hstep _ dt).trans ih

@[simp] theorem inverseMass_after (past : List Act) :
    (b.after shapes past).1.inverseMass = b.inverseMass :=
  kept_after (fun _ => inverseMass_push) (fun _ => inverseMass_accelerate) past

@[simp] theorem shapes_after (past : List Act) : (b.after shapes past).1.shapes = b.shapes :=
  kept_after (fun _ => shapes_push) (fun _ => shapes_accelerate) past

theorem force_after_step (dt : ℝ) (past : List Act) :
    (b.after shapes (.step dt :: past)).1.force = 0 := force_accelerate dt

/-- A body that can move has stored the pushes since the last step. -/
theorem force_after (hmoves : 0 < b.inverseMass) (past : List Act) :
    (b.after shapes past).1.force = Act.sinceStep b.force past := by
  induction past with
  | nil => rfl
  | cons a past ih =>
    cases a with
    | push force =>
      have hpush : 0 < (b.after shapes past).1.inverseMass := by rwa [inverseMass_after]
      exact (force_push hpush force).trans (congrArg (· + force) ih)
    | step dt => exact force_after_step dt past

theorem force_after_of_fixed (hfixed : b.inverseMass = 0) (hforce : b.force = 0)
    (past : List Act) : (b.after shapes past).1.force = 0 := by
  induction past with
  | nil => exact hforce
  | cons a past ih =>
    cases a with
    | push force =>
      have hpush : (b.after shapes past).1.inverseMass = 0 := by rwa [inverseMass_after]
      exact (congrArg RigidBody.force (push_of_fixed hpush force)).trans ih
    | step dt => exact force_after_step dt past

/-- The velocity gained in a history: each step adds the pushes since the step before it. -/
theorem velocity_after (past : List Act) :
    (b.after shapes past).1.velocity = b.velocity +
      Act.overSteps (fun past dt => Act.sinceStep b.force past * b.inverseMass * dt) past := by
  induction past with
  | nil => exact (add_zero _).symm
  | cons a past ih =>
    cases a with
    | push force => exact (velocity_push force).trans ih
    | step dt =>
      have hforce : (b.after shapes past).1.force * b.inverseMass =
          Act.sinceStep b.force past * b.inverseMass := by
        rcases b.inverseMass_nonneg.eq_or_lt with hfixed | hmoves
        · rw [← hfixed, Vec3.mul_zero, Vec3.mul_zero]
        · rw [force_after hmoves]
      have hstep : (b.after shapes (.step dt :: past)).1.velocity =
          (b.after shapes past).1.velocity +
            (b.after shapes past).1.force * b.inverseMass * dt := by
        have hkept : (b.after shapes past).1.inverseMass = b.inverseMass := inverseMass_after past
        rw [← hkept]
        exact velocity_accelerate dt
      rw [hstep, hforce, ih, add_assoc]
      rfl

/-- How far a history should have moved the shapes of a body: each step moves them with the velocity
after the step. -/
noncomputable def travel (b : SoundBody) (shapes : Shapes ℝ) : List Act → Vec3 ℝ :=
  Act.overSteps fun past dt => (b.after shapes (.step dt :: past)).1.velocity * dt

/-- The shapes of a body that can move travel together, and no other one moves. -/
theorem find?_after (hids : b.shapes.Nodup) (hmoves : 0 < b.inverseMass) (past : List Act)
    (x : ShapeId) : (b.after shapes past).2.find? x =
      if x ∈ b.shapes then (shapes.find? x).map fun s => s.moveBy (b.travel shapes past)
      else shapes.find? x := by
  induction past with
  | nil => exact (Shapes.find?_moveBy_zero shapes b.shapes x).symm
  | cons a past ih =>
    cases a with
    | push force => exact ih
    | step dt =>
      have hnodup : (b.after shapes past).1.shapes.Nodup := by rwa [shapes_after]
      have hpos : 0 < (b.after shapes (.step dt :: past)).1.inverseMass := by
        rwa [inverseMass_after]
      have hmoved : ((b.after shapes past).1.accelerate dt).displacement dt =
          (b.after shapes (.step dt :: past)).1.velocity * dt := displacement_of_pos hpos dt
      have hstep := find?_step hnodup dt (b.after shapes past).2 x
      rw [hmoved, shapes_after, ih] at hstep
      refine hstep.trans ?_
      split
      next hx =>
        rw [Option.map_map]
        congr 1
        funext s
        exact Shape.moveBy_moveBy s _ _
      next => rfl

theorem shapes_after_of_fixed (hfixed : b.inverseMass = 0) (past : List Act) :
    (b.after shapes past).2 = shapes := by
  induction past with
  | nil => rfl
  | cons a past ih =>
    cases a with
    | push force => exact ih
    | step dt =>
      have hzero : ((b.after shapes past).1.accelerate dt).inverseMass = 0 := by
        rw [inverseMass_accelerate, inverseMass_after, hfixed]
      have hstill : ((b.after shapes past).1.accelerate dt).displacement dt == 0 :=
        beq_iff_eq.2 (displacement_of_fixed hzero dt)
      exact (if_pos hstill).trans ih

/-- The shapes of a body move as one piece, if at all, and no other one moves. -/
theorem exists_find?_after (hids : b.shapes.Nodup) (shapes : Shapes ℝ) (past : List Act) :
    ∃ v, ∀ x, (b.after shapes past).2.find? x =
      if x ∈ b.shapes then (shapes.find? x).map fun s => s.moveBy v else shapes.find? x := by
  rcases b.inverseMass_nonneg.eq_or_lt with hfixed | hmoves
  · refine ⟨0, fun x => ?_⟩
    rw [shapes_after_of_fixed hfixed.symm, Shapes.find?_moveBy_zero]
  · exact ⟨b.travel shapes past, find?_after hids hmoves past⟩

end SoundBody

namespace RigidBody

open SoundBody

/-- **Each push acts once, and a body moves as one piece**, whatever is done to the body.  Its
velocity is what it began with, and for each step the pushes since the step before it, times the
inverse mass, times the length of the step; after a step no push is left.  If it can move, its
shapes have been moved by the sum of its velocities after the steps times their lengths.  They keep
their places relative to each other, and no other shape is touched.  A body that is created without
positive mass moves nothing, keeps its velocity and stores no push. -/
theorem pushes_act_once :
    (∀ (b : SoundBody) (shapes : Shapes ℝ) (past : List Act), b.shapes.Nodup →
        (b.after shapes past).1.velocity = b.velocity +
          Act.overSteps (fun past dt => Act.sinceStep b.force past * b.inverseMass * dt) past ∧
        (∀ dt, (b.after shapes (.step dt :: past)).1.force = 0) ∧
        (0 < b.inverseMass → ∀ x ∈ b.shapes, (b.after shapes past).2.find? x =
          (shapes.find? x).map fun s => s.moveBy (b.travel shapes past)) ∧
        (∀ x ∈ b.shapes, ∀ y ∈ b.shapes, ∀ s t s' t',
          shapes.find? x = some s → shapes.find? y = some t →
          (b.after shapes past).2.find? x = some s' → (b.after shapes past).2.find? y = some t' →
            t'.position - s'.position = t.position - s.position) ∧
        ∀ x ∉ b.shapes, (b.after shapes past).2.find? x = shapes.find? x) ∧
    (∀ (mass : ℝ) (ids : List ShapeId), 0 ≤ (ofMass mass ids).inverseMass) ∧
    ∀ (b : SoundBody) (mass : ℝ) (shapes : Shapes ℝ) (past : List Act), mass ≤ 0 →
      b.inverseMass = (ofMass mass b.shapes).inverseMass →
      b.force = (ofMass mass b.shapes).force →
        (b.after shapes past).2 = shapes ∧ (b.after shapes past).1.velocity = b.velocity ∧
          (b.after shapes past).1.force = 0 := by
  refine ⟨?_, inverseMass_ofMass_nonneg, ?_⟩
  · intro b shapes past hids
    obtain ⟨v, hmoved⟩ := b.exists_find?_after hids shapes past
    refine ⟨b.velocity_after past, fun dt => force_after_step dt past, ?_, ?_, ?_⟩
    · intro hmoves x hx
      rw [find?_after hids hmoves, if_pos hx]
    · intro x hx y hy s t s' t' hs ht hs' ht'
      rw [hmoved, if_pos hx, hs] at hs'
      rw [hmoved, if_pos hy, ht] at ht'
      obtain rfl := Option.some.inj hs'
      obtain rfl := Option.some.inj ht'
      exact add_sub_add_right_eq_sub _ _ _
    · intro x hx
      rw [hmoved, if_neg hx]
  · intro b mass shapes past hmass hinverse hforce
    have hfixed : b.inverseMass = 0 := hinverse.trans (if_neg hmass.not_gt)
    refine ⟨shapes_after_of_fixed hfixed past, ?_, force_after_of_fixed hfixed hforce past⟩
    have hnothing : ∀ (past : List Act) (dt : ℝ),
        Act.sinceStep b.force past * b.inverseMass * dt = 0 := by
      intro past dt
      rw [hfixed, Vec3.mul_zero, Vec3.zero_mul]
    rw [b.velocity_after, Act.overSteps_eq_zero hnothing, add_zero]

/-- Two balls, the second one above the first. -/
noncomputable def stack : Shapes ℝ :=
  ⟨#[.ofForm (.sphere 1) 1, (Shape.ofForm (.sphere 1) 1).moveBy ⟨0, 4, 0⟩]⟩

noncomputable def crate : SoundBody := .ofMass 4 [⟨0⟩, ⟨1⟩]

/-- Two pushes, a step, and a step without a push. -/
noncomputable def shoving : List Act :=
  [.step 1, .step 1, .push ⟨4, 0, 0⟩, .push ⟨8, 0, 0⟩]

/-- Both pushes act in the first step.  In the second step the body moves on, and a body without
mass keeps still. -/
theorem pushes_act_once_of_crate :
    crate.shapes.Nodup ∧ 0 < crate.inverseMass ∧
    (crate.after stack shoving).1.velocity = ⟨3, 0, 0⟩ ∧
    (crate.after stack shoving).1.force = 0 ∧
    (crate.after stack shoving).2.find? ⟨1⟩ =
      (stack.find? ⟨1⟩).map (fun s => s.moveBy ⟨6, 0, 0⟩) ∧
    ((SoundBody.ofMass (-1) [⟨0⟩]).after stack shoving).2 = stack := by
  have hids : crate.shapes.Nodup := by decide
  have hinverse : crate.inverseMass = 1 / 4 := if_pos four_pos
  have hmoves : 0 < crate.inverseMass := by
    rw [hinverse]
    exact one_div_pos.2 four_pos
  obtain ⟨hbody, -, hmassless⟩ := pushes_act_once
  obtain ⟨hvelocity, -⟩ := hbody crate stack shoving hids
  obtain ⟨hfirst, hforce, -⟩ := hbody crate stack shoving.tail hids
  obtain ⟨-, -, hmoved, -⟩ := hbody crate stack shoving hids
  have hgained : (crate.after stack shoving.tail).1.velocity = ⟨3, 0, 0⟩ := by
    rw [hfirst, hinverse]
    norm_num [crate, SoundBody.ofMass, ofMass, shoving, Act.overSteps, Act.sinceStep,
      Vec3.zero_def, Vec3.add_def, Vec3.mul_def]
  have hkept : (crate.after stack shoving).1.velocity = ⟨3, 0, 0⟩ := by
    have hnone : ∀ quantity : List Act → ℝ → Vec3 ℝ, Act.overSteps quantity shoving =
        Act.overSteps quantity shoving.tail + quantity shoving.tail 1 := fun _ => rfl
    have hpushes : Act.sinceStep crate.force shoving.tail = 0 := rfl
    rw [hvelocity, hnone, hpushes, Vec3.zero_mul, Vec3.zero_mul, add_zero, ← hfirst, hgained]
  have htravel : crate.travel stack shoving = ⟨6, 0, 0⟩ := by
    have hsum : crate.travel stack shoving =
        0 + (crate.after stack shoving.tail).1.velocity * (1 : ℝ) +
          (crate.after stack shoving).1.velocity * (1 : ℝ) := rfl
    rw [hsum, hgained, hkept]
    norm_num [Vec3.zero_def, Vec3.add_def, Vec3.mul_def]
  have hsecond := hmoved hmoves ⟨1⟩ (by decide)
  rw [htravel] at hsecond
  obtain ⟨hstill, -⟩ := hmassless (.ofMass (-1) [⟨0⟩]) (-1) stack shoving (by norm_num) rfl rfl
  exact ⟨hids, hmoves, hkept, hforce 1, hsecond, hstill⟩

end RigidBody

end RagdollDynamics
