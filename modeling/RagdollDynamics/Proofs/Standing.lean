import RagdollDynamics.Proofs.Command
import RagdollDynamics.Proofs.Membership.Ownership

/-!
# What stepping leaves alone

Moving shapes about changes neither who owns what nor which shapes an entity lists
(`World.Alike`), and detection, contacts and steps change neither the members of a simulation nor
its limits (`Simulation.Alike`).
-/

namespace RagdollDynamics

variable {K : Type}

/-! ### Worlds -/

namespace World

/-- The same owners, and entities with the same shapes. -/
structure Alike (w w' : World K) : Prop where
  entityRecord : w'.entities.record? = w.entities.record?
  ragdollRecord : w'.ragdolls.record? = w.ragdolls.record?
  entityShapes : w'.entityShapes = w.entityShapes

variable {w w' w'' : World K}

@[simp] theorem Alike.refl (w : World K) : w.Alike w := ⟨rfl, rfl, rfl⟩

theorem Alike.trans (h₁ : w.Alike w') (h₂ : w'.Alike w'') : w.Alike w'' :=
  ⟨h₂.entityRecord.trans h₁.entityRecord, h₂.ragdollRecord.trans h₁.ragdollRecord,
    h₂.entityShapes.trans h₁.entityShapes⟩

theorem Alike.foldl {α : Type} {f : World K → α → World K} (hf : ∀ w a, Alike w (f w a))
    (l : List α) (w : World K) : w.Alike (l.foldl f w) :=
  List.foldlRecOn l f (Alike.refl w) fun v hv a _ => hv.trans (hf v a)

theorem body?_replace {slots : Slots .entity (Entity K)} {id h : EntityId} {e : Entity K} :
    (slots.replace id e).body? h =
      if id = h then (slots.body? h).map fun _ => e else slots.body? h := by
  unfold Slots.replace Slots.body?
  rw [Arena.find?_modify]
  split <;> simp [Function.comp_def]

theorem alike_actEntity (w : World K) (id : EntityId)
    {f : Entity K → Shapes K → Entity K × Shapes K} (hf : ∀ e shapes, (f e shapes).1.shapes = e.shapes) :
    w.Alike (w.actEntity id f) := by
  unfold actEntity
  cases hb : w.entities.body? id with
  | none => exact .refl w
  | some e =>
    refine ⟨funext fun h => Slots.record?_replace, rfl, funext fun h => ?_⟩
    unfold World.entityShapes
    rw [body?_replace]
    by_cases e' : id = h
    · subst e'
      simp [hb, hf]
    · rw [if_neg e']

theorem alike_actRagdoll (w : World K) (id : RagdollId)
    (f : Ragdoll K → Shapes K → Ragdoll K × Shapes K) : w.Alike (w.actRagdoll id f) := by
  unfold actRagdoll
  cases w.ragdolls.body? id with
  | none => exact .refl w
  | some r => exact ⟨rfl, funext fun h => Slots.record?_replace, rfl⟩

end World

/-- Stepping an entity keeps the shapes that it lists. -/
@[simp] theorem Entity.shapes_step [Scalar K] (e : Entity K) (dt : K) (shapes : Shapes K) :
    (e.step dt shapes).1.shapes = e.shapes := by
  cases e with
  | scenery ids => rfl
  | rigid b =>
    simp only [Entity.step, Entity.shapes, RigidBody.step, RigidBody.accelerate,
      RigidBody.clearForce]
    split <;> rfl

/-! ### Simulations -/

namespace Simulation

/-- The same number, limits and members. -/
structure Alike (s s' : Simulation K) : Prop where
  id : s'.id = s.id
  config : s'.config = s.config
  entities : s'.entities = s.entities
  ragdolls : s'.ragdolls = s.ragdolls

variable {s s' s'' : Simulation K} {w : World K}

@[simp] theorem Alike.refl (s : Simulation K) : s.Alike s := ⟨rfl, rfl, rfl, rfl⟩

theorem Alike.trans (h₁ : s.Alike s') (h₂ : s'.Alike s'') : s.Alike s'' :=
  ⟨h₂.id.trans h₁.id, h₂.config.trans h₁.config, h₂.entities.trans h₁.entities,
    h₂.ragdolls.trans h₁.ragdolls⟩

variable [Scalar K]

theorem alike_integrate (s : Simulation K) (dt : K) (w : World K) : w.Alike (s.integrate dt w) := by
  refine World.Alike.trans (World.Alike.foldl (fun w id => ?_) s.entities.others w)
    (World.Alike.foldl (fun w id => ?_) s.ragdolls.members _)
  · exact World.alike_actEntity w id fun e shapes => Entity.shapes_step e dt shapes
  · exact World.alike_actRagdoll w id _

theorem alike_recenterAll (s : Simulation K) (hit : Bool) (w : World K) :
    w.Alike (s.recenterAll hit w) :=
  (World.Alike.foldl (fun w id => World.alike_actRagdoll w id _) s.ragdolls.primary.toList w).trans
    (World.Alike.foldl (fun w id => World.alike_actRagdoll w id _) s.ragdolls.others _)

theorem alike_begin (s : Simulation K) (dt : K) (w : World K) :
    s.Alike (s.begin dt w).1 ∧ w.Alike (s.begin dt w).2 :=
  ⟨⟨rfl, rfl, rfl, rfl⟩, (s.alike_integrate dt w).trans ⟨rfl, rfl, rfl⟩⟩

/-- One pass moves shapes and nothing else in the world. -/
theorem alike_pass (s : Simulation K) (w : World K) :
    s.Alike (s.pass w).sim ∧ w.Alike (s.pass w).world :=
  ⟨⟨rfl, rfl, rfl, rfl⟩, ⟨rfl, rfl, rfl⟩⟩

theorem alike_relax (minError : K) (expiry : UInt64) (more : Nat) (s : Simulation K) (w : World K) :
    s.Alike (relax minError expiry more s w).sim ∧ w.Alike (relax minError expiry more s w).world := by
  induction more generalizing s w with
  | zero => exact s.alike_pass w
  | succ more ih =>
    have hpass := s.alike_pass w
    rw [relax]
    split
    · exact ⟨hpass.1.trans (ih _ _).1, hpass.2.trans (ih _ _).2⟩
    · exact hpass

/-- **A step changes no membership**, and no owner and no entity's shapes either. -/
theorem alike_step (s : Simulation K) (w : World K) (order : StepOrder K) :
    s.Alike (s.step w order).2.1 ∧ w.Alike (s.step w order).2.2 := by
  have hbegin := s.alike_begin order.dt w
  have hrelax := alike_relax order.minError (addTime s.clock.now order.maxTime)
    (order.maxPasses.toNat - 1) (s.begin order.dt w).1 (s.begin order.dt w).2
  exact ⟨(hbegin.1.trans hrelax.1).trans ⟨rfl, rfl, rfl, rfl⟩,
    (hbegin.2.trans hrelax.2).trans (alike_recenterAll _ _ _)⟩

end Simulation

end RagdollDynamics
