import RagdollDynamics.Proofs.Frame.Independence
import RagdollDynamics.Proofs.Translation.Contacts

/-!
# Translation of steps

Stepping commutes with moving the world: a step of the moved world reports what the step of the
world where it was reports, and ends in that step's end, moved (`Simulation.step_translate`).  So no
phase of a step depends on where the world's origin lies, and neither does a run of steps
(`Simulation.run_translate`; both together in `Simulation.step_equivariant`).
-/

namespace RagdollDynamics

/-! ### Worlds -/

namespace World

/-- The world moved by a vector: its shapes, and what its ragdolls know of places. -/
noncomputable def translate (v : Vec3 ℝ) (w : World ℝ) : World ℝ :=
  { w with
    shapes := w.shapes.translate v
    ragdolls := w.ragdolls.map fun s => { s with body := s.body.translate v } }

variable (v : Vec3 ℝ) (w : World ℝ)

@[simp] theorem shapes_translate : (w.translate v).shapes = w.shapes.translate v := rfl

@[simp] theorem entities_translate : (w.translate v).entities = w.entities := rfl

@[simp] theorem entityShapes_translate (id : EntityId) :
    (w.translate v).entityShapes id = w.entityShapes id := rfl

@[simp] theorem ragdoll?_translate (id : RagdollId) :
    (w.translate v).ragdolls.body? id = (w.ragdolls.body? id).map (.translate v) := by
  simp [Slots.body?, translate, Function.comp_def]

theorem actEntity_translate (id : EntityId)
    {f : Entity ℝ → Shapes ℝ → Entity ℝ × Shapes ℝ}
    (moved : ∀ e shapes, f e (shapes.translate v) = ((f e shapes).1, (f e shapes).2.translate v)) :
    (w.translate v).actEntity id f = (w.actEntity id f).translate v := by
  unfold actEntity
  rw [entities_translate, shapes_translate]
  cases w.entities.body? id with
  | none => rfl
  | some e => simp only [moved, translate]

theorem actRagdoll_translate (id : RagdollId)
    {f : Ragdoll ℝ → Shapes ℝ → Ragdoll ℝ × Shapes ℝ}
    (moved : ∀ r shapes, f (r.translate v) (shapes.translate v)
      = ((f r shapes).1.translate v, (f r shapes).2.translate v)) :
    (w.translate v).actRagdoll id f = (w.actRagdoll id f).translate v := by
  unfold actRagdoll
  rw [ragdoll?_translate, shapes_translate]
  cases w.ragdolls.body? id with
  | none => rfl
  | some r =>
    have replaced (body : Ragdoll ℝ) :
        (w.translate v).ragdolls.replace id (body.translate v)
          = (w.ragdolls.replace id body).map fun s => { s with body := s.body.translate v } :=
      w.ragdolls.modify_map id fun _ => rfl
    simp only [Option.map_some, moved, replaced]
    rfl

end World

namespace Simulation

/-- The simulation with the collisions of its last detection moved by a vector.  Nothing else that
it holds has a place. -/
noncomputable def translate (v : Vec3 ℝ) (s : Simulation ℝ) : Simulation ℝ :=
  { s with collisions := s.collisions.translate v }

variable (v : Vec3 ℝ) (s : Simulation ℝ) (w : World ℝ)

/-! ### Bodies in a step -/

theorem integrate_translate (dt : ℝ) :
    s.integrate dt (w.translate v) = (s.integrate dt w).translate v := by
  have entity (w : World ℝ) (id : EntityId) :
      (w.translate v).actEntity id (fun e shapes => e.step dt shapes)
        = (w.actEntity id fun e shapes => e.step dt shapes).translate v :=
    w.actEntity_translate v id fun e shapes => e.step_translate v dt shapes
  have ragdoll (w : World ℝ) (id : RagdollId) :
      (w.translate v).actRagdoll id (fun r shapes => r.step dt shapes)
        = (w.actRagdoll id fun r shapes => r.step dt shapes).translate v :=
    w.actRagdoll_translate v id fun r shapes => r.step_translate v shapes dt
  rw [integrate, List.foldl_hom (World.translate v) entity, List.foldl_hom (World.translate v) ragdoll]
  rfl

theorem enforceEach_translate (ids : List RagdollId) (shapes : Shapes ℝ) :
    enforceEach (w.translate v).ragdolls ids (shapes.translate v)
      = ((enforceEach w.ragdolls ids shapes).1,
          (enforceEach w.ragdolls ids shapes).2.translate v) := by
  induction ids generalizing shapes with
  | nil => rfl
  | cons id rest ih =>
    simp only [enforceEach, World.ragdoll?_translate]
    cases w.ragdolls.body? id with
    | none => exact ih shapes
    | some r => simp only [Option.map_some, Ragdoll.enforce_translate, ih]

theorem enforceRagdolls_translate :
    s.enforceRagdolls (w.translate v)
      = ((s.enforceRagdolls w).1, (s.enforceRagdolls w).2.translate v) := by
  simp only [enforceRagdolls, World.shapes_translate, enforceEach_translate]
  rfl

theorem recenter_translate (recording : Bool) (id : RagdollId) :
    s.recenter recording (w.translate v) id = (s.recenter recording w id).translate v :=
  w.actRagdoll_translate v id fun r shapes => by
    rw [Ragdoll.inFrame_translate, Ragdoll.recenter_translate]

theorem recenterAll_translate (hitOther : Bool) :
    s.recenterAll hitOther (w.translate v) = (s.recenterAll hitOther w).translate v := by
  have each (recording : Bool) (ids : List RagdollId) (w : World ℝ) :
      ids.foldl (s.recenter recording) (w.translate v)
        = (ids.foldl (s.recenter recording) w).translate v :=
    List.foldl_hom (World.translate v) fun w id => s.recenter_translate v w recording id
  rw [recenterAll, each, each]
  rfl

/-! ### Collisions and contacts in a step -/

theorem ownCollisions_translate :
    s.ownCollisions (w.translate v) = (s.ownCollisions w).map (.translate v) := by
  unfold ownCollisions
  rw [World.entities_translate]
  cases s.entities.primary.bind w.entities.body? with
  | none => rfl
  | some e => exact w.shapes.collisionsWithin_translate ..

theorem otherCollisions_translate :
    s.otherCollisions (w.translate v) = (s.otherCollisions w).map (.translate v) := by
  unfold otherCollisions
  rw [World.entities_translate]
  cases s.entities.primary.bind w.entities.body? with
  | none => rfl
  | some e =>
    simp only [World.shapes_translate, World.entityShapes_translate, List.map_flatMap,
      Shapes.collisionsBetween_translate]

/-- A detection in the moved world finds the moved collisions. -/
theorem detect_translate :
    s.detect (w.translate v) = ((s.detect w).1, (s.detect w).2.translate v) := by
  have fromClear (cs : List (Collision ℝ)) :
      s.collisions.clear.offerAll (cs.map (.translate v))
        = ((s.collisions.clear.offerAll cs).1, (s.collisions.clear.offerAll cs).2.translate v) := by
    simpa only [CollisionBuffer.translate_clear] using s.collisions.clear.offerAll_translate v cs
  simp only [detect, ownCollisions_translate, otherCollisions_translate, fromClear,
    CollisionBuffer.offerAll_translate, translate]

theorem noteContacts_translate :
    (s.translate v).noteContacts (w.translate v) = (s.noteContacts w).translate v := by
  simp only [noteContacts, translate, World.shapes_translate, CollisionBuffer.toList_translate,
    ContactTable.noteAll_translate]

theorem resolve_translate :
    (s.translate v).resolve (w.translate v) = (s.resolve w).translate v := by
  simp only [resolve, translate, World.translate, CollisionBuffer.toList_translate,
    Collision.resolveAll_translate]

theorem enforceContacts_translate :
    s.enforceContacts (w.translate v) = ((s.enforceContacts w).1, (s.enforceContacts w).2.1,
      (s.enforceContacts w).2.2.translate v) := by
  simp only [enforceContacts, World.translate, ContactTable.enforce_translate]

theorem rubContacts_translate :
    (s.translate v).rubContacts (w.translate v)
      = ((s.rubContacts w).1.translate v, (s.rubContacts w).2.translate v) := by
  simp only [rubContacts, translate, World.translate, ContactTable.rub_translate]

end Simulation

/-! ### Passes -/

noncomputable def Relaxation.translate (v : Vec3 ℝ) (r : Relaxation ℝ) : Relaxation ℝ :=
  { r with sim := r.sim.translate v, world := r.world.translate v }

@[simp] theorem Relaxation.unfinished_translate (v : Vec3 ℝ) (r : Relaxation ℝ) (minError : ℝ)
    (expiry : UInt64) :
    (r.translate v).unfinished minError expiry = r.unfinished minError expiry := by
  have empty : (r.translate v).sim.collisions.isEmpty = r.sim.collisions.isEmpty :=
    CollisionBuffer.isEmpty_translate ..
  rw [unfinished, empty]
  rfl

namespace Simulation

variable (u v : Vec3 ℝ) (s : Simulation ℝ) (w : World ℝ)

theorem pass_translate : s.pass (w.translate v) = (s.pass w).translate v := by
  have ragdolls (s : Simulation ℝ) : (s.translate v).enforceRagdolls = s.enforceRagdolls := rfl
  simp only [pass, detect_translate, noteContacts_translate, resolve_translate, ragdolls,
    enforceRagdolls_translate, rubContacts_translate]
  rfl

/-- Passes do not look at the collisions that were found before them. -/
theorem relax_forgets (minError : ℝ) (expiry : UInt64) (more : Nat) :
    relax minError expiry more (s.translate u) w = relax minError expiry more s w := by
  cases more <;> rfl

theorem relax_translate (minError : ℝ) (expiry : UInt64) (more : Nat) :
    relax minError expiry more s (w.translate v)
      = (relax minError expiry more s w).translate v := by
  induction more generalizing s w with
  | zero => exact s.pass_translate v w
  | succ more ih =>
    have later (r : Relaxation ℝ) :
        relax minError expiry more (r.translate v).sim (r.translate v).world
          = (relax minError expiry more r.sim r.world).translate v :=
      (relax_forgets v r.sim _ minError expiry more).trans (ih r.sim r.world)
    simp only [relax, pass_translate, Relaxation.unfinished_translate, later]
    split <;> rfl

/-! ### Steps -/

theorem begin_translate (dt : ℝ) :
    s.begin dt (w.translate v) = ((s.begin dt w).1, (s.begin dt w).2.translate v) := by
  simp only [begin, integrate_translate, enforceContacts_translate, enforceRagdolls_translate]

theorem step_translate (order : StepOrder ℝ) :
    s.step (w.translate v) order =
      ((s.step w order).1, (s.step w order).2.1.translate v, (s.step w order).2.2.translate v) := by
  have size (s : Simulation ℝ) : (s.translate v).collisions.size = s.collisions.size :=
    CollisionBuffer.size_translate ..
  simp only [step, begin_translate, relax_translate, Relaxation.translate, recenterAll_translate,
    size]
  rfl

/-- A step does not look at the collisions that were found before it. -/
theorem step_forgets (order : StepOrder ℝ) : (s.translate u).step w order = s.step w order := by
  have begun : (s.translate u).begin order.dt w
      = ((s.begin order.dt w).1.translate u, (s.begin order.dt w).2) := rfl
  simp only [step, begun, relax_forgets]
  rfl

theorem run_translate (orders : List (StepOrder ℝ)) :
    (s.translate v).run (w.translate v) orders =
      ((s.run w orders).1, (s.run w orders).2.1.translate v, (s.run w orders).2.2.translate v) := by
  induction orders generalizing s w with
  | nil => rfl
  | cons order rest ih => simp only [run, step_forgets, step_translate, ih]

/-- **Stepping commutes with moving the world.**  A step of the moved world reports the same and
leaves the same contacts, velocities and movements; what has a place is where the step of the world
where it was leaves it, moved.  The same is true of whole runs. -/
theorem step_equivariant (v : Vec3 ℝ) (s : Simulation ℝ) (w : World ℝ) :
    (∀ order, s.step (w.translate v) order =
      ((s.step w order).1, (s.step w order).2.1.translate v, (s.step w order).2.2.translate v)) ∧
    ∀ orders, (s.translate v).run (w.translate v) orders =
      ((s.run w orders).1, (s.run w orders).2.1.translate v, (s.run w orders).2.2.translate v) :=
  ⟨s.step_translate v w, s.run_translate v w⟩

end Simulation

end RagdollDynamics
