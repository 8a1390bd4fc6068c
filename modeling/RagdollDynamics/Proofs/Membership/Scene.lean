import Mathlib.Logic.Function.Basic
import RagdollDynamics.Proofs.Holding
import RagdollDynamics.Proofs.Membership.Lawful

/-!
# Scenes

A scene is a world together with the simulations that work on it, in any number.  Whatever happens
in a scene, every simulation lists exactly the objects that the world records as its own
(`Scene.Consistent`): nothing ever has two owners, and no request meets a stale record.
-/

namespace RagdollDynamics

/-- A world and the simulations that work on it. -/
structure Scene (K : Type) where
  world : World K
  /-- The simulations in use, by number. -/
  live : SimulationId → Option (Simulation K)
  /-- The numbers given out so far. -/
  issued : List SimulationId

namespace Scene

variable {K : Type}

def empty : Scene K := ⟨.empty, fun _ => none, []⟩

/-- What can happen in a scene. -/
inductive Event (K : Type) where
  | addShape (shape : Shape K)
  | addEntity (entity : Entity K)
  | addRagdoll (ragdoll : Ragdoll K)
  /-- A simulation comes into use, under a number that was not given out before. -/
  | create (id : SimulationId) (config : Config K) (clock : Clock)
  | command (id : SimulationId) (c : Command K)
  /-- A simulation goes out of use.  What it owned stays recorded as its own. -/
  | drop (id : SimulationId)
  /-- What is recorded for a simulation out of use is given back. -/
  | release (id : SimulationId)

def put (scene : Scene K) (id : SimulationId) (s : Option (Simulation K)) : Scene K :=
  { scene with live := Function.update scene.live id s }

/-- The scene after an event.  Nothing happens where a number that was given out is asked for again,
a command goes to a simulation out of use, or one in use is to be released. -/
def act [Scalar K] (scene : Scene K) : Event K → Except Violation (Scene K)
  | .addShape shape => .ok { scene with world := (scene.world.addShape shape).2 }
  | .addEntity entity =>
    (scene.world.addEntity entity).map fun added => { scene with world := added.2 }
  | .addRagdoll ragdoll => .ok { scene with world := (scene.world.addRagdoll ragdoll).2 }
  | .create id config clock =>
    if id ∈ scene.issued then .ok scene
    else
      .ok { scene.put id (some (.fresh id config clock)) with issued := id :: scene.issued }
  | .command id c =>
    match scene.live id with
    | none => .ok scene
    | some s =>
      (s.perform scene.world c).map fun after =>
        { scene.put id (some after.1) with world := after.2 }
  | .drop id => .ok (scene.put id none)
  | .release id =>
    if (scene.live id).isSome then .ok scene
    else .ok { scene with world := scene.world.release id }

/-- What holds throughout every history of a scene. -/
structure Consistent (scene : Scene K) : Prop where
  id_eq : ∀ id s, scene.live id = some s → s.id = id
  settled : ∀ id s, scene.live id = some s → s.Settled scene.world
  issued : ∀ id s, scene.live id = some s → id ∈ scene.issued
  /-- A number that was not given out yet is on no record. -/
  unowned : ∀ id, id ∉ scene.issued → (∀ e, scene.world.entities.owner? e ≠ some id) ∧
    ∀ d, scene.world.ragdolls.owner? d ≠ some id

variable {scene scene' : Scene K} {w' : World K} {id : SimulationId}

theorem live_put {i : SimulationId} {s? : Option (Simulation K)} {t : Simulation K} :
    (scene.put id s?).live i = some t ↔
      (i = id ∧ s? = some t) ∨ (i ≠ id ∧ scene.live i = some t) := by
  unfold put
  by_cases e : i = id
  · subst e
    simp
  · simp [e]

theorem consistent_empty : (empty : Scene K).Consistent := by
  have hfree : ∀ {k : HandleKind} {α : Type} (h : Handle k) (i : SimulationId),
      Slots.owner? (Arena.empty : Slots k α) h ≠ some i := fun h i => by
    simp [Slots.owner?, Slots.record?, Arena.find?, Arena.empty]
  have hnone : ∀ i (s : Simulation K), (empty : Scene K).live i ≠ some s := fun i s h => by cases h
  exact ⟨fun i s h => absurd h (hnone i s), fun i s h => absurd h (hnone i s),
    fun i s h => absurd h (hnone i s), fun i _ => ⟨fun e => hfree e i, fun d => hfree d i⟩⟩

/-- A world with the same owners may take the place of the world. -/
theorem Consistent.withWorld (hs : scene.Consistent)
    (he : w'.entities.owner? = scene.world.entities.owner?)
    (hd : w'.ragdolls.owner? = scene.world.ragdolls.owner?) :
    { scene with world := w' }.Consistent where
  id_eq := hs.id_eq
  settled := fun id s h =>
    ⟨(hs.settled id s h).entities.congr fun e => by rw [he],
      (hs.settled id s h).ragdolls.congr fun d => by rw [hd]⟩
  issued := hs.issued
  unowned := fun id h => by
    simp only [he, hd]
    exact hs.unowned id h

/-- What one simulation changes does not unsettle another. -/
theorem settled_of_changedBy {s : Simulation K} {w : World K} (hs : s.Settled w)
    (hw : w.ChangedBy id w') (hne : s.id ≠ id) : s.Settled w' :=
  ⟨hs.entities.congr fun _ => hw.entities.owner?_iff hne,
    hs.ragdolls.congr fun _ => hw.ragdolls.owner?_iff hne⟩

theorem unowned_of_changedBy {other : SimulationId} {w : World K} (hw : w.ChangedBy id w')
    (hne : other ≠ id)
    (h : (∀ e, w.entities.owner? e ≠ some other) ∧ ∀ d, w.ragdolls.owner? d ≠ some other) :
    (∀ e, w'.entities.owner? e ≠ some other) ∧ ∀ d, w'.ragdolls.owner? d ≠ some other :=
  ⟨fun e he => h.1 e ((hw.entities.owner?_iff hne).1 he),
    fun d hd => h.2 d ((hw.ragdolls.owner?_iff hne).1 hd)⟩

theorem Consistent.create [Scalar K] (hs : scene.Consistent) (hid : id ∉ scene.issued)
    (config : Config K) (clock : Clock) :
    Consistent { scene.put id (some (.fresh id config clock)) with
      issued := id :: scene.issued } := by
  refine ⟨fun i s h => ?_, fun i s h => ?_, fun i s h => ?_,
    fun i h => hs.unowned i fun hm => h (List.mem_cons_of_mem _ hm)⟩ <;>
    rcases live_put.1 h with ⟨rfl, e⟩ | ⟨-, h⟩
  · exact Option.some.inj e ▸ rfl
  · exact hs.id_eq i s h
  · rw [← Option.some.inj e]
    exact ⟨Roster.settled_empty (hs.unowned i hid).1, Roster.settled_empty (hs.unowned i hid).2⟩
  · exact hs.settled i s h
  · exact List.mem_cons_self
  · exact List.mem_cons_of_mem _ (hs.issued i s h)

theorem Consistent.command {s s' : Simulation K} (hs : scene.Consistent)
    (hlive : scene.live id = some s) (hl : s.Lawful scene.world s' w') :
    Consistent { scene.put id (some s') with world := w' } := by
  have hid := hs.id_eq id s hlive
  refine ⟨fun i t h => ?_, fun i t h => ?_, fun i t h => ?_, fun i h => ?_⟩
  · rcases live_put.1 h with ⟨rfl, e⟩ | ⟨-, h⟩
    · exact Option.some.inj e ▸ hl.id.trans hid
    · exact hs.id_eq i t h
  · rcases live_put.1 h with ⟨rfl, e⟩ | ⟨hne, h⟩
    · exact Option.some.inj e ▸ hl.settled (hs.settled i s hlive)
    · refine settled_of_changedBy (hs.settled i t h) hl.world ?_
      rw [hs.id_eq i t h, hid]
      exact hne
  · rcases live_put.1 h with ⟨rfl, -⟩ | ⟨-, h⟩
    · exact hs.issued i s hlive
    · exact hs.issued i t h
  · refine unowned_of_changedBy hl.world (fun e => ?_) (hs.unowned i h)
    rw [e, hid] at h
    exact h (hs.issued id s hlive)

theorem Consistent.drop (hs : scene.Consistent) (id : SimulationId) :
    (scene.put id none).Consistent := by
  have hold : ∀ i s, (scene.put id none).live i = some s → scene.live i = some s := by
    intro i s h
    rcases live_put.1 h with ⟨-, e⟩ | ⟨-, h⟩
    · exact nomatch e
    · exact h
  exact ⟨fun i s h => hs.id_eq i s (hold i s h), fun i s h => hs.settled i s (hold i s h),
    fun i s h => hs.issued i s (hold i s h), hs.unowned⟩

theorem Consistent.release (hs : scene.Consistent) (hlive : scene.live id = none) :
    Consistent { scene with world := scene.world.release id } := by
  have hw : scene.world.ChangedBy id (scene.world.release id) :=
    ⟨Slots.changedBy_releaseAll, Slots.changedBy_releaseAll,
      funext fun e => by simp [World.entityShapes, World.release, Slots.body?_releaseAll]⟩
  refine ⟨hs.id_eq, fun i s h => ?_, hs.issued, fun i h => ?_⟩
  · refine settled_of_changedBy (hs.settled i s h) hw fun e => ?_
    rw [hs.id_eq i s h] at e
    rw [e, hlive] at h
    cases h
  · by_cases e : i = id
    · subst e
      refine ⟨fun e he => ?_, fun d hd => ?_⟩
      · rw [World.release, Slots.owner?_releaseAll] at he
        split at he <;> simp_all
      · rw [World.release, Slots.owner?_releaseAll] at hd
        split at hd <;> simp_all
    · exact unowned_of_changedBy hw e (hs.unowned i h)

/-! ### Every event -/

/-- Adding an entity changes no owner: it may mark shapes, and the entity itself is free. -/
theorem Consistent.addEntity {entity : Entity K} {added : EntityId × World K}
    (hs : scene.Consistent) (h : scene.world.addEntity entity = .ok added) :
    { scene with world := added.2 }.Consistent := by
  obtain ⟨shapes, -, rfl⟩ := World.addEntity_eq_ok h
  exact hs.withWorld (funext fun e => Slots.owner?_push) rfl

/-- Marking shapes fails only at a shape that is part of another entity. -/
theorem markHeld_ne_stale {holder : EntityId} {k : HandleKind} {h : Handle k} (ids : List ShapeId)
    (shapes : Shapes K) : World.markHeld holder ids shapes ≠ .error (.staleOwner k h) := by
  induction ids generalizing shapes with
  | nil =>
    intro e
    cases e
  | cons id ids ih =>
    intro e
    rw [World.markHeld] at e
    split at e
    · split at e
      · exact ih shapes e
      · cases e
    · exact ih _ e

variable [Scalar K]

/-- **Every event keeps a scene consistent.** -/
theorem Consistent.act (hs : scene.Consistent) {e : Event K} (h : scene.act e = .ok scene') :
    scene'.Consistent := by
  cases e with
  | addShape shape => exact Except.ok.inj h ▸ hs.withWorld rfl rfl
  | addEntity entity =>
    cases hadd : scene.world.addEntity entity with
    | error v =>
      rw [Scene.act, hadd] at h
      exact nomatch h
    | ok added =>
      rw [Scene.act, hadd] at h
      exact Except.ok.inj h ▸ hs.addEntity hadd
  | addRagdoll ragdoll =>
    exact Except.ok.inj h ▸ hs.withWorld rfl (funext fun d => Slots.owner?_push)
  | create id config clock =>
    rw [Scene.act] at h
    split at h
    next => exact Except.ok.inj h ▸ hs
    next hid => exact Except.ok.inj h ▸ hs.create hid config clock
  | command id c =>
    rw [Scene.act] at h
    cases hlive : scene.live id with
    | none =>
      simp only [hlive] at h
      exact Except.ok.inj h ▸ hs
    | some s =>
      simp only [hlive] at h
      obtain ⟨⟨s', w'⟩, hc⟩ := (hs.settled id s hlive).perform_ok c
      rw [hc] at h
      exact Except.ok.inj h ▸ hs.command hlive (Simulation.perform_lawful hc)
  | drop id => exact Except.ok.inj h ▸ hs.drop id
  | release id =>
    rw [Scene.act] at h
    split at h
    next => exact Except.ok.inj h ▸ hs
    next hlive => exact Except.ok.inj h ▸ hs.release (by simpa using hlive)

/-- In a consistent scene no request meets a stale record. -/
theorem Consistent.act_ne_stale (hs : scene.Consistent) (e : Event K) {k : HandleKind}
    {h : Handle k} : scene.act e ≠ .error (.staleOwner k h) := by
  intro he
  cases e with
  | addEntity entity =>
    cases hm : World.markHeld scene.world.entities.nextHandle entity.shapes scene.world.shapes with
    | ok shapes =>
      simp only [Scene.act, World.addEntity, hm] at he
      cases he
    | error v =>
      simp only [Scene.act, World.addEntity, hm] at he
      have hv : v = .staleOwner k h := Except.error.inj he
      exact markHeld_ne_stale entity.shapes scene.world.shapes (hv ▸ hm)
  | command id c =>
    rw [Scene.act] at he
    cases hlive : scene.live id with
    | none =>
      simp only [hlive] at he
      cases he
    | some s =>
      obtain ⟨st, hc⟩ := (hs.settled id s hlive).perform_ok c
      simp only [hlive, hc] at he
      cases he
  | create id config clock | release id =>
    rw [Scene.act] at he
    split at he
    · cases he
    · cases he
  | addShape shape | addRagdoll ragdoll | drop id => cases he

/-- **Membership over whole histories.**  After every history, every simulation in use lists nobody
twice, keeps within its limits, has its primary members apart from the others, and lists exactly
what the world records as its own; so nothing is ever a member of two simulations.  And no history
ends with a stale record. -/
theorem membership_of_history (past : List (Event K)) :
    (∀ scene, outcome act empty past = .ok scene →
      (∀ id s, scene.live id = some s → s.id = id ∧
        s.entities.Sound s.config.maxEntities ∧ s.ragdolls.Sound s.config.maxRagdolls ∧
        (∀ e, scene.world.entities.owner? e = some id ↔ s.entities.contains e = true) ∧
        ∀ d, scene.world.ragdolls.owner? d = some id ↔ s.ragdolls.contains d = true) ∧
      ∀ id s id' s', scene.live id = some s → scene.live id' = some s' → id ≠ id' →
        (∀ e, ¬ (s.entities.contains e = true ∧ s'.entities.contains e = true)) ∧
        ∀ d, ¬ (s.ragdolls.contains d = true ∧ s'.ragdolls.contains d = true)) ∧
    ∀ k (h : Handle k), outcome act empty past ≠ .error (.staleOwner k h) := by
  have hstep : ∀ (before : Scene K) e after,
      before.Consistent → before.act e = .ok after → after.Consistent := fun _ _ _ hs h => hs.act h
  refine ⟨fun scene h => ?_, fun k h =>
    outcome_ne_error consistent_empty hstep (fun _ e hs => hs.act_ne_stale e) past⟩
  have hs : scene.Consistent := outcome_invariant consistent_empty hstep h
  have hown : ∀ id s, scene.live id = some s →
      (∀ e, scene.world.entities.owner? e = some id ↔ s.entities.contains e = true) ∧
      ∀ d, scene.world.ragdolls.owner? d = some id ↔ s.ragdolls.contains d = true := by
    intro id s hlive
    rw [← hs.id_eq id s hlive]
    exact ⟨(hs.settled id s hlive).entities.owner?_iff, (hs.settled id s hlive).ragdolls.owner?_iff⟩
  refine ⟨fun id s hlive => ⟨hs.id_eq id s hlive, (hs.settled id s hlive).entities.sound,
    (hs.settled id s hlive).ragdolls.sound, hown id s hlive⟩, fun id s id' s' h h' hne => ?_⟩
  refine ⟨fun e he => hne ?_, fun d hd => hne ?_⟩
  · have h₁ := ((hown id s h).1 e).2 he.1
    have h₂ := ((hown id' s' h').1 e).2 he.2
    exact Option.some.inj (h₁.symm.trans h₂)
  · have h₁ := ((hown id s h).2 d).2 hd.1
    have h₂ := ((hown id' s' h').2 d).2 hd.2
    exact Option.some.inj (h₁.symm.trans h₂)

/-- A second simulation is refused an entity, and gets it once the first one is out of use and what
it owned is given back. -/
def handover : List (Event Float32) :=
  [.command ⟨2⟩ (.setEntity (some ⟨0⟩)), .release ⟨1⟩, .drop ⟨1⟩, .command ⟨2⟩ (.admitEntity ⟨0⟩),
    .command ⟨1⟩ (.admitEntity ⟨0⟩), .create ⟨2⟩ .standard (.still 0),
    .create ⟨1⟩ .standard (.still 0), .addEntity (.scenery [])]

theorem membership_of_handover : ∃ scene s, outcome act empty handover = .ok scene ∧
    scene.live ⟨2⟩ = some s ∧ s.entities.contains ⟨0⟩ = true ∧
    scene.world.entities.owner? ⟨0⟩ = some ⟨2⟩ := by
  have hrun : (outcome act empty handover).toOption.any (fun scene =>
      (scene.live ⟨2⟩).any fun s => s.entities.contains ⟨0⟩) = true := by decide +kernel
  cases h : outcome act empty handover with
  | error v => simp [h, Except.toOption] at hrun
  | ok scene =>
    simp only [h, Except.toOption, Option.any_some] at hrun
    obtain ⟨s, hlive, hmem⟩ := (Option.any_eq_true _ _).1 hrun
    obtain ⟨-, -, -, hown, -⟩ := ((membership_of_history handover).1 scene h).1 ⟨2⟩ s hlive
    exact ⟨scene, s, rfl, hlive, hmem, (hown ⟨0⟩).2 hmem⟩

end Scene

end RagdollDynamics
