import RagdollDynamics.Body.Entity
import RagdollDynamics.Body.Ragdoll
import RagdollDynamics.Proofs.Translation.Geometry

/-!
# Translation of bodies

A world is moved by moving its shapes, the past of its particles, the anchors of its pins and the
targets of its roots.  What a joint, a ragdoll or an entity does to moved shapes is what it does to
the shapes where they were, moved; the errors and shifts that it finds are the same.
-/

namespace RagdollDynamics

/-! ### Arenas -/

namespace Arena

variable {k : HandleKind} {α : Type} {f f' g : α → α}

theorem modify_map (a : Arena k α) (h : Handle k) (comm : ∀ x, f' (g x) = g (f x)) :
    (a.map g).modify h f' = (a.modify h f).map g := by
  have items : (a.items.map g).modify h.index f' = (a.items.modify h.index f).map g := by
    refine Array.ext_getElem? fun i => ?_
    simp only [Array.getElem?_modify, Array.getElem?_map]
    split
    · simp only [Option.map_map]
      exact congrArg (Option.map · a.items[i]?) (funext comm)
    · rfl
  exact congrArg Arena.mk items

theorem modifyAll_map (a : Arena k α) (hs : List (Handle k)) (comm : ∀ x, f' (g x) = g (f x)) :
    (a.map g).modifyAll hs f' = (a.modifyAll hs f).map g :=
  List.foldl_hom (fun a : Arena k α => a.map g) fun a h => a.modify_map h comm

end Arena

/-! ### Shapes -/

namespace Shape

variable (s : Shape ℝ) (u v : Vec3 ℝ)

@[simp] theorem position_moveBy : (s.moveBy v).position = s.position + v := rfl

theorem toSolid_moveBy : (s.moveBy v).toSolid = s.toSolid.translate v := rfl

@[simp] theorem inverseMass_moveBy : (s.moveBy v).inverseMass = s.inverseMass := rfl

@[simp] theorem isImmovable_moveBy : (s.moveBy v).isImmovable = s.isImmovable := rfl

theorem moveBy_comm : (s.moveBy v).moveBy u = (s.moveBy u).moveBy v := by
  simp only [moveBy, add_right_comm]

theorem settle_moveBy : (s.moveBy v).settle = s.settle.moveBy v := by
  by_cases none : s.pendingCount = 0
  · simp only [settle, moveBy, none, ↓reduceIte]
  · simp only [settle, moveBy, none, ↓reduceIte, add_right_comm]

end Shape

namespace Shapes

noncomputable def translate (v : Vec3 ℝ) (shapes : Shapes ℝ) : Shapes ℝ :=
  shapes.map fun s => s.moveBy v

variable (v : Vec3 ℝ) (shapes : Shapes ℝ) (id : ShapeId)

@[simp] theorem find?_translate :
    (shapes.translate v).find? id = (shapes.find? id).map fun s => s.moveBy v :=
  shapes.find?_map _ id

@[simp] theorem position?_translate :
    (shapes.translate v).position? id = (shapes.position? id).map (· + v) := by
  simp [position?, Function.comp_def]

@[simp] theorem inverseMass_translate :
    (shapes.translate v).inverseMass id = shapes.inverseMass id := by
  simp [inverseMass, Function.comp_def]

@[simp] theorem modify_moveBy_translate (u : Vec3 ℝ) :
    (shapes.translate v).modify id (fun s => s.moveBy u)
      = Shapes.translate v (shapes.modify id fun s => s.moveBy u) :=
  shapes.modify_map id fun s => s.moveBy_comm u v

@[simp] theorem modifyAll_moveBy_translate (ids : List ShapeId) (u : Vec3 ℝ) :
    (shapes.translate v).modifyAll ids (fun s => s.moveBy u)
      = Shapes.translate v (shapes.modifyAll ids fun s => s.moveBy u) :=
  shapes.modifyAll_map ids fun s => s.moveBy_comm u v

@[simp] theorem modify_place_translate (p : Vec3 ℝ) :
    (shapes.translate v).modify id (fun s => { s with position := p + v })
      = Shapes.translate v (shapes.modify id fun s => { s with position := p }) :=
  shapes.modify_map id fun _ => rfl

end Shapes

/-! ### Joints -/

namespace Joint

/-- The joint moved by a vector: a pin moves with its anchor, a rod has no place. -/
noncomputable def translate (v : Vec3 ℝ) : Joint ℝ → Joint ℝ
  | rod a b length => rod a b length
  | pin shape anchor => pin shape (anchor + v)

variable (v : Vec3 ℝ) (shapes : Shapes ℝ)

theorem enforceRod_translate (a b : ShapeId) (length : ℝ) :
    enforceRod a b length (shapes.translate v)
      = ((enforceRod a b length shapes).1, (enforceRod a b length shapes).2.translate v) := by
  unfold enforceRod
  by_cases same : a = b
  · simp only [if_pos same]
  rw [if_neg same, if_neg same, Shapes.find?_translate, Shapes.find?_translate]
  cases shapes.find? a with
  | none => rfl
  | some s =>
    cases shapes.find? b with
    | none => rfl
    | some t =>
      have between : (t.moveBy v).position - (s.moveBy v).position = t.position - s.position :=
        add_sub_add_right_eq_sub ..
      simp only [Option.map_some, between, Shape.inverseMass_moveBy]
      split
      · rfl
      · split
        · rfl
        · simp only [Shapes.modify_moveBy_translate]

theorem enforcePin_translate (shape : ShapeId) (anchor : Vec3 ℝ) :
    enforcePin shape (anchor + v) (shapes.translate v)
      = ((enforcePin shape anchor shapes).1, (enforcePin shape anchor shapes).2.translate v) := by
  unfold enforcePin
  rw [Shapes.position?_translate]
  cases shapes.position? shape with
  | none => rfl
  | some p => simp only [Option.map_some, Vec3.distance_add_right, Shapes.modify_place_translate]

theorem enforce_translate (j : Joint ℝ) :
    (j.translate v).enforce (shapes.translate v)
      = ((j.enforce shapes).1, (j.enforce shapes).2.translate v) := by
  cases j with
  | rod a b length => exact enforceRod_translate v shapes a b length
  | pin shape anchor => exact enforcePin_translate v shapes shape anchor

theorem enforceAll_translate (js : List (Joint ℝ)) :
    enforceAll (js.map (translate v)) (shapes.translate v)
      = ((enforceAll js shapes).1, (enforceAll js shapes).2.translate v) := by
  induction js generalizing shapes with
  | nil => rfl
  | cons j rest ih => simp only [List.map_cons, enforceAll, enforce_translate, ih]

end Joint

/-! ### Ragdolls -/

theorem Verlet.advance_add (gravity p q v : Vec3 ℝ) (damping dt : ℝ) :
    advance gravity damping dt ⟨p + v, q + v⟩
      = ⟨(advance gravity damping dt ⟨p, q⟩).position + v,
          (advance gravity damping dt ⟨p, q⟩).previous + v⟩ := by
  simp only [advance, velocity, add_sub_add_right_eq_sub, add_right_comm]

namespace Particle

noncomputable def translate (v : Vec3 ℝ) (p : Particle ℝ) : Particle ℝ :=
  { p with previous := p.previous + v }

variable (v : Vec3 ℝ) (gravity : Vec3 ℝ) (damping dt : ℝ) (shapes : Shapes ℝ)

theorem step_translate (p : Particle ℝ) :
    (p.translate v).step gravity damping dt (shapes.translate v)
      = ((p.step gravity damping dt shapes).1.translate v,
          (p.step gravity damping dt shapes).2.translate v) := by
  unfold step
  have shape : (p.translate v).shape = p.shape := rfl
  have previous : (p.translate v).previous = p.previous + v := rfl
  rw [shape, previous, Shapes.find?_translate]
  cases shapes.find? p.shape with
  | none => rfl
  | some s =>
    simp only [Option.map_some, Shape.isImmovable_moveBy, Shape.position_moveBy]
    by_cases fixed : s.isImmovable
    · simp only [fixed, ↓reduceIte, translate]
    · simp [fixed, Verlet.advance_add, translate]

theorem stepAll_translate (ps : List (Particle ℝ)) :
    stepAll gravity damping dt (ps.map (translate v)) (shapes.translate v)
      = ((stepAll gravity damping dt ps shapes).1.map (translate v),
          (stepAll gravity damping dt ps shapes).2.translate v) := by
  induction ps generalizing shapes with
  | nil => rfl
  | cons p rest ih => simp only [List.map_cons, stepAll, step_translate, ih]

end Particle

namespace JointedDoll

/-- The ragdoll moved by a vector: its past, its pins and the target of its root. -/
noncomputable def translate (v : Vec3 ℝ) (d : JointedDoll ℝ) : JointedDoll ℝ :=
  { d with
    particles := d.particles.map (.translate v)
    joints := d.joints.map (.translate v)
    target := d.target + v }

variable (v : Vec3 ℝ) (d : JointedDoll ℝ) (shapes : Shapes ℝ)

@[simp] theorem shapes_translate : (d.translate v).shapes = d.shapes := by
  simp [JointedDoll.shapes, translate, Particle.translate, Function.comp_def]

@[simp] theorem root?_translate : (d.translate v).root? = d.root? := by
  simp [root?, translate, Particle.translate, Function.comp_def]

@[simp] theorem localTarget_translate : (d.translate v).localTarget = d.localTarget + v :=
  add_sub_right_comm ..

theorem step_translate (dt : ℝ) :
    (d.translate v).step dt (shapes.translate v)
      = ((d.step dt shapes).1.translate v, (d.step dt shapes).2.translate v) := by
  simp only [step, translate, Particle.stepAll_translate]

theorem enforce_translate :
    (d.translate v).enforce (shapes.translate v)
      = ((d.enforce shapes).1, (d.enforce shapes).2.translate v) := by
  simp only [enforce, translate, Joint.enforceAll_translate]

@[simp] theorem rootOffset?_translate :
    (d.translate v).rootOffset? (shapes.translate v) = d.rootOffset? shapes := by
  unfold rootOffset?
  rw [root?_translate, localTarget_translate]
  cases d.root? with
  | none => rfl
  | some root => simp [Function.comp_def]

theorem shift_translate (u : Vec3 ℝ) :
    (d.translate v).shift u (shapes.translate v)
      = ((d.shift u shapes).1.translate v, (d.shift u shapes).2.translate v) := by
  simp only [shift, shapes_translate, Shapes.modifyAll_moveBy_translate]
  simp only [translate, Particle.translate, List.map_map, Function.comp_def, add_right_comm]

theorem remember_translate (u : Vec3 ℝ) :
    (d.translate v).remember u = (d.remember u).translate v := by
  unfold remember
  split
  · rfl
  · rfl

theorem recenter_translate (recording : Bool) :
    (d.translate v).recenter recording (shapes.translate v)
      = ((d.recenter recording shapes).1.translate v,
          (d.recenter recording shapes).2.translate v) := by
  unfold recenter
  rw [rootOffset?_translate]
  cases d.rootOffset? shapes with
  | none => rfl
  | some u =>
    simp only [shift_translate, remember_translate]
    split
    · rfl
    · cases recording <;> rfl

end JointedDoll

namespace Ragdoll

/-- The ragdoll moved by a vector.  A puppet has no place of its own. -/
noncomputable def translate (v : Vec3 ℝ) : Ragdoll ℝ → Ragdoll ℝ
  | jointed d => jointed (d.translate v)
  | puppet d => puppet d

variable (v : Vec3 ℝ) (r : Ragdoll ℝ) (shapes : Shapes ℝ)

theorem step_translate (dt : ℝ) :
    (r.translate v).step dt (shapes.translate v)
      = ((r.step dt shapes).1.translate v, (r.step dt shapes).2.translate v) := by
  cases r with
  | jointed d => simp only [step, translate, JointedDoll.step_translate]
  | puppet d => rfl

theorem enforce_translate :
    (r.translate v).enforce (shapes.translate v)
      = ((r.enforce shapes).1, (r.enforce shapes).2.translate v) := by
  cases r with
  | jointed d => exact d.enforce_translate v shapes
  | puppet d => rfl

theorem inFrame_translate (frame : Vec3 ℝ) :
    (r.translate v).inFrame frame = (r.inFrame frame).translate v := by
  cases r <;> rfl

theorem recenter_translate (recording : Bool) :
    (r.translate v).recenter recording (shapes.translate v)
      = ((r.recenter recording shapes).1.translate v,
          (r.recenter recording shapes).2.translate v) := by
  cases r with
  | jointed d => simp only [recenter, translate, JointedDoll.recenter_translate]
  | puppet d => rfl

end Ragdoll

/-! ### Entities -/

theorem RigidBody.step_translate (v : Vec3 ℝ) (b : RigidBody ℝ) (dt : ℝ) (shapes : Shapes ℝ) :
    b.step dt (shapes.translate v) = ((b.step dt shapes).1, (b.step dt shapes).2.translate v) := by
  unfold step
  dsimp only
  split
  · rfl
  · simp only [Shapes.modifyAll_moveBy_translate]

/-- An entity has no place of its own, and moves its shapes from wherever they are. -/
theorem Entity.step_translate (v : Vec3 ℝ) (e : Entity ℝ) (dt : ℝ) (shapes : Shapes ℝ) :
    e.step dt (shapes.translate v) = ((e.step dt shapes).1, (e.step dt shapes).2.translate v) := by
  cases e with
  | rigid b => simp only [step, RigidBody.step_translate]
  | scenery ids => rfl

end RagdollDynamics
