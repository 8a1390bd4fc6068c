import RagdollDynamics.Proofs.Collision.Detection
import RagdollDynamics.Proofs.Contact.Table
import RagdollDynamics.Proofs.Membership.Requests
import RagdollDynamics.Proofs.Step.Driver

/-!
# How contacts come and go

Outside of steps, a command at most forgets contacts (`Simulation.contacts_perform`): those of the
shapes that it purges, or those that are too old.  Within a step, every pass renews or starts the
contact of each pair that it finds colliding (`Simulation.frame?_pass`), and the end of the step
forgets what is too old.
-/

namespace RagdollDynamics

variable {K : Type}

/-! ### Commands -/

/-- Whether a command forgets the contacts of a shape.  A primary entity that gives up its place
takes the contacts of its shapes with it, and so does any entity that is dismissed. -/
def Command.purges (s : Simulation K) (w : World K) : Command K → ShapeId → Bool
  | .setEntity none, x => s.entities.primary.any fun old => x ∈ w.entityShapes old
  | .setEntity (some id), x =>
    match s.entities.promotion s.id (w.entities.record? id) id with
    | .granted => s.entities.primary.any fun old => x ∈ w.entityShapes old
    | _ => false
  | .dismissEntity id, x => s.entities.contains id && x ∈ w.entityShapes id
  | .disband, _ => true
  | .forgetEntity id, x => x ∈ w.entityShapes id
  | .forgetShape id, x => x = id
  | _, _ => false

def Command.spares (s : Simulation K) (w : World K) : Command K → Contact K → Bool
  | .forgetOld, k => s.frame - k.frame ≤ s.config.contactLifetime
  | c, k => !c.purges s w k.lower && !c.purges s w k.upper

theorem Command.purges_of_spares {s : Simulation K} {w : World K} {c : Command K} {k : Contact K}
    (h : c.spares s w k = true) :
    c.purges s w k.lower = false ∧ c.purges s w k.upper = false := by
  cases c <;> first | exact ⟨rfl, rfl⟩ | simpa [Command.spares] using h

/-- A contact that is not too old is spared unless one of its shapes is purged. -/
theorem Command.spares_iff {s : Simulation K} {w : World K} {a b : ShapeId} {c : Command K}
    {k : Contact K} (hk : k.Joins a b)
    (hfresh : s.frame - k.frame ≤ s.config.contactLifetime) :
    c.spares s w k = true ↔ c.purges s w a = false ∧ c.purges s w b = false := by
  have hpair : c.purges s w k.lower = false ∧ c.purges s w k.upper = false ↔
      c.purges s w a = false ∧ c.purges s w b = false := by
    rcases hk with ⟨rfl, rfl⟩ | ⟨rfl, rfl⟩
    · exact Iff.rfl
    · exact and_comm
  rw [← hpair]
  refine ⟨Command.purges_of_spares, fun h => ?_⟩
  cases c with
  | forgetOld => exact decide_eq_true hfresh
  | _ => simp only [Command.spares, h, Bool.not_false, Bool.and_self]

namespace Simulation

variable {s s' : Simulation K} {w w' : World K}

theorem Alike.faces (hs : s.Alike s') (hw : w.Alike w') : s'.Faces w' = s.Faces w := by
  funext a b
  rw [Faces, hs.entities, hw.entityShapes, Faces]

theorem any_involves (ids : List ShapeId) (k : Contact K) :
    (!ids.any k.involves) = (!decide (k.lower ∈ ids) && !decide (k.upper ∈ ids)) := by
  rw [← Bool.not_or, Bool.not_inj_iff, Bool.eq_iff_iff]
  simp only [List.any_eq_true, Contact.involves, decide_eq_true_eq, Bool.or_eq_true]
  constructor
  · rintro ⟨x, hx, rfl | rfl⟩
    · exact .inl hx
    · exact .inr hx
  · rintro (h | h)
    · exact ⟨_, h, .inl rfl⟩
    · exact ⟨_, h, .inr rfl⟩

theorem contacts_forgetEntity (s : Simulation K) (w : World K) (id : EntityId) :
    (s.forgetEntity w id).contacts = s.contacts.keep fun k =>
      !decide (k.lower ∈ w.entityShapes id) && !decide (k.upper ∈ w.entityShapes id) :=
  congrArg s.contacts.keep (funext fun k => any_involves _ k)

theorem contacts_unseatEntity (s : Simulation K) (w : World K) : (s.unseatEntity w).1.contacts =
    s.contacts.keep (Command.spares s w (.setEntity none)) := by
  unfold unseatEntity
  split
  next hp =>
    refine (ContactTable.keep_all fun k => ?_).symm
    simp [Command.spares, Command.purges, hp]
  next old hp =>
    refine (contacts_forgetEntity _ w old).trans (congrArg s.contacts.keep (funext fun k => ?_))
    simp [Command.spares, Command.purges, hp]

theorem contacts_setEntity {id : Option EntityId} {o : Outcome .entity K}
    (h : s.setEntity w id = .ok o) :
    o.sim.contacts = s.contacts.keep (Command.spares s w (.setEntity id)) := by
  cases id with
  | none => exact Except.ok.inj h ▸ s.contacts_unseatEntity w
  | some id =>
    simp only [setEntity, promoteEntity] at h
    split at h
    next hv =>
      rw [← Except.ok.inj h]
      refine (ContactTable.keep_all fun k => ?_).symm
      simp [Command.spares, Command.purges, hv]
    next hv =>
      rw [← Except.ok.inj h]
      refine (ContactTable.keep_all fun k => ?_).symm
      simp [Command.spares, Command.purges, hv]
    next => cases h
    next hv =>
      rw [← Except.ok.inj h]
      refine (s.contacts_unseatEntity w).trans (congrArg s.contacts.keep (funext fun k => ?_))
      simp [Command.spares, Command.purges, hv]

theorem contacts_dismissEntity (s : Simulation K) (w : World K) (id : EntityId) :
    (s.dismissEntity w id).1.contacts =
      s.contacts.keep (Command.spares s w (.dismissEntity id)) := by
  unfold dismissEntity
  split
  next hmem =>
    refine (contacts_forgetEntity _ w id).trans (congrArg s.contacts.keep (funext fun k => ?_))
    simp [Command.spares, Command.purges, hmem]
  next hnot =>
    refine (ContactTable.keep_all fun k => ?_).symm
    simp [Command.spares, Command.purges, hnot]

theorem keyed_forgetOld (hk : s.contacts.Keyed) : s.forgetOld.contacts.Keyed :=
  hk.keep fun k => s.frame - k.frame ≤ s.config.contactLifetime

theorem contacts_admitEntity {id : EntityId} {o : Outcome .entity K}
    (h : s.admitEntity w id = .ok o) : o.sim.contacts = s.contacts := by
  unfold admitEntity at h
  split at h <;> cases h <;> rfl

variable [Scalar K]

/-- What a command does to contacts, outside of steps and of noting collisions: the frame stays,
and so does whatever pushing and rubbing keep of the contacts that it spares. -/
theorem view_perform {β : Type} {v : Contact K → β}
    (henforce : ∀ c shapes, v (Contact.enforce c shapes).2.1 = v c)
    (hrub : ∀ c shapes, v (Contact.rub c shapes).1 = v c) {c : Command K}
    (h : s.perform w c = .ok (s', w')) (hnote : c ≠ .noteContacts)
    (hstep : ∀ order, c ≠ .step order) :
    s'.frame = s.frame ∧ s'.contacts.view v = (s.contacts.keep (c.spares s w)).view v := by
  have hsame : ∀ {c : Command K}, (∀ k, c.spares s w k = true) →
      s'.contacts.view v = s.contacts.view v →
      s'.contacts.view v = (s.contacts.keep (c.spares s w)).view v := fun hall hview => by
    rw [ContactTable.keep_all hall, hview]
  have hentity : c.asksEntity = true → s'.frame = s.frame := fun hc => by
    rw [(entitiesOnly_perform h hc).sim]
  cases c with
  | admitEntity id =>
    refine ⟨hentity rfl, hsame (fun _ => rfl) ?_⟩
    obtain ⟨o, ho, rfl, rfl⟩ := map_state_eq_ok h
    exact congrArg (ContactTable.view v) (contacts_admitEntity ho)
  | setEntity id =>
    refine ⟨hentity rfl, ?_⟩
    obtain ⟨o, ho, rfl, rfl⟩ := map_state_eq_ok h
    exact congrArg (ContactTable.view v) (contacts_setEntity ho)
  | dismissEntity id =>
    refine ⟨hentity rfl, ?_⟩
    obtain ⟨rfl, rfl⟩ := Prod.ext_iff.1 (Except.ok.inj h)
    exact congrArg (ContactTable.view v) (s.contacts_dismissEntity w id)
  | admitRagdoll id | setRagdoll id | dismissRagdoll id =>
    have hsim := (ragdollsOnly_perform h rfl).sim
    exact ⟨by rw [hsim], hsame (fun _ => rfl) (by rw [hsim])⟩
  | disband =>
    obtain ⟨rfl, rfl⟩ := Prod.ext_iff.1 (Except.ok.inj h)
    have hnone : s.contacts.keep (Command.spares s w .disband) = .empty :=
      congrArg ContactTable.mk (List.filter_eq_nil_iff.2 fun e _ => Bool.false_ne_true)
    rw [hnone]
    exact ⟨rfl, rfl⟩
  | forgetEntity id =>
    obtain ⟨rfl, rfl⟩ := Prod.ext_iff.1 (Except.ok.inj h)
    exact ⟨rfl, congrArg (ContactTable.view v) (s.contacts_forgetEntity w id)⟩
  | forgetShape id =>
    obtain ⟨rfl, rfl⟩ := Prod.ext_iff.1 (Except.ok.inj h)
    refine ⟨rfl, congrArg (fun p => (s.contacts.keep p).view v) (funext fun k => ?_)⟩
    simp [Command.spares, Command.purges, Contact.involves]
  | forgetOld =>
    obtain ⟨rfl, rfl⟩ := Prod.ext_iff.1 (Except.ok.inj h)
    exact ⟨rfl, rfl⟩
  | enforceContacts =>
    obtain ⟨rfl, rfl⟩ := Prod.ext_iff.1 (Except.ok.inj h)
    exact ⟨rfl, hsame (fun _ => rfl) (ContactTable.view_enforce henforce s.contacts w.shapes)⟩
  | rubContacts =>
    obtain ⟨rfl, rfl⟩ := Prod.ext_iff.1 (Except.ok.inj h)
    exact ⟨rfl, hsame (fun _ => rfl) (ContactTable.view_rub hrub s.contacts w.shapes)⟩
  | detect | resolve | moveOrigin origin =>
    obtain ⟨rfl, rfl⟩ := Prod.ext_iff.1 (Except.ok.inj h)
    exact ⟨rfl, hsame (fun _ => rfl) rfl⟩
  | noteContacts => exact absurd rfl hnote
  | step order => exact absurd rfl (hstep order)

/-- **What a command does to contacts**, outside of steps and of noting collisions: the frame
stays, and so do the contacts that it spares. -/
theorem contacts_perform {c : Command K} (h : s.perform w c = .ok (s', w'))
    (hnote : c ≠ .noteContacts) (hstep : ∀ order, c ≠ .step order) :
    s'.frame = s.frame ∧ s'.contacts.outline = (s.contacts.keep (c.spares s w)).outline :=
  view_perform Contact.outline_enforce Contact.outline_rub h hnote hstep

/-! ### Passes -/

theorem outline_pass (s : Simulation K) (w : World K) : (s.pass w).sim.contacts.outline =
    (s.contacts.noteAll s.frame s.config.contactAllowance w.shapes
      (s.pass w).sim.collisions.toList).outline :=
  ContactTable.outline_rub _ _

theorem keyed_pass (hk : s.contacts.Keyed) : (s.pass w).sim.contacts.Keyed :=
  (hk.noteAll _).congr (s.outline_pass w)

/-- A pass renews or starts the contact of every pair that it finds colliding. -/
theorem frame?_pass (s : Simulation K) (w : World K) (key : ShapePair) :
    (s.pass w).sim.contacts.frame? key =
      if ∃ hit ∈ (s.pass w).sim.collisions.toList, hit.key? = some key then some s.frame
      else s.contacts.frame? key := by
  rw [ContactTable.frame?_congr (s.outline_pass w)]
  refine ContactTable.frame?_noteAll fun hit hmem => ?_
  obtain ⟨b, hb, -, -, h₁, h₂⟩ := faces_of_mem_detect hmem
  exact ⟨b, hb, h₁, h₂⟩

/-- The contacts that a pass starts are among shapes that the primary entity faces. -/
theorem within_pass {P : ShapeId → ShapeId → Prop} (hs : s.contacts.Within P)
    (hP : ∀ a b, s.Faces w a b → P a b) : (s.pass w).sim.contacts.Within P := by
  refine (hs.noteAll fun hit hmem b hb => ?_).congr (s.outline_pass w)
  obtain ⟨b', hb', -, hfaces, -, -⟩ := faces_of_mem_detect hmem
  rw [hb] at hb'
  exact hP _ _ (Option.some.inj hb' ▸ hfaces)

/-! ### Steps -/

theorem outline_begin (s : Simulation K) (dt : K) (w : World K) :
    (s.begin dt w).1.contacts.outline = s.contacts.outline :=
  ContactTable.outline_enforce _ _

/-- Members and limits stay as they are from pass to pass, and the next frame has begun. -/
theorem alike_beforeStepPass (s : Simulation K) (w : World K) (dt : K) (k : Nat) :
    s.Alike (s.beforeStepPass w dt k).1 ∧ w.Alike (s.beforeStepPass w dt k).2 ∧
      (s.beforeStepPass w dt k).1.frame = s.frame + 1 := by
  induction k with
  | zero => exact ⟨(s.alike_begin dt w).1, (s.alike_begin dt w).2, rfl⟩
  | succ k ih =>
    obtain ⟨hs, hw, hframe⟩ := ih
    have hpass := (s.beforeStepPass w dt k).1.alike_pass (s.beforeStepPass w dt k).2
    exact ⟨hs.trans hpass.1, hw.trans hpass.2, hframe⟩

theorem keyed_beforeStepPass (hk : s.contacts.Keyed) (dt : K) (k : Nat) :
    (s.beforeStepPass w dt k).1.contacts.Keyed := by
  induction k with
  | zero => exact hk.congr (s.outline_begin dt w)
  | succ k ih => exact keyed_pass ih

/-- The passes of a step renew or start the contact of every pair that one of them finds. -/
theorem frame?_beforeStepPass (s : Simulation K) (w : World K) (dt : K) (n : Nat)
    (key : ShapePair) : (s.beforeStepPass w dt n).1.contacts.frame? key =
      if ∃ k < n, ∃ hit ∈ (s.stepPass w dt k).sim.collisions.toList, hit.key? = some key then
        some (s.frame + 1)
      else s.contacts.frame? key := by
  induction n with
  | zero =>
    rw [if_neg fun ⟨k, hk, _⟩ => absurd hk k.not_lt_zero]
    exact ContactTable.frame?_congr (s.outline_begin dt w)
  | succ n ih =>
    have hpass := (s.beforeStepPass w dt n).1.frame?_pass (s.beforeStepPass w dt n).2 key
    rw [(s.alike_beforeStepPass w dt n).2.2, ih] at hpass
    refine hpass.trans ?_
    by_cases hnow : ∃ hit ∈ (s.stepPass w dt n).sim.collisions.toList, hit.key? = some key
    · exact (if_pos hnow).trans (if_pos (Nat.exists_lt_succ_right.2 (.inr hnow))).symm
    · refine (if_neg hnow).trans ?_
      simp only [Nat.exists_lt_succ_right, hnow, or_false]

/-- The contacts that a step starts are among shapes that the primary entity faces. -/
theorem within_step {P : ShapeId → ShapeId → Prop} (hs : s.contacts.Within P)
    (hP : ∀ a b, s.Faces w a b → P a b) (order : StepOrder K) :
    (s.step w order).2.1.contacts.Within P := by
  have hpasses : ∀ k, (s.beforeStepPass w order.dt k).1.contacts.Within P := by
    intro k
    induction k with
    | zero => exact hs.congr (s.outline_begin order.dt w)
    | succ k ih =>
      obtain ⟨hsim, hworld, -⟩ := s.alike_beforeStepPass w order.dt k
      have hfaces := hsim.faces hworld
      exact within_pass ih fun a b h => hP a b (hfaces ▸ h)
  intro c hc
  rw [sim_step] at hc
  exact hpasses _ c (ContactTable.mem_toList_keep.1 hc).1

theorem frame_step (s : Simulation K) (w : World K) (order : StepOrder K) :
    (s.step w order).2.1.frame = s.frame + 1 := by
  rw [sim_step]
  exact (s.alike_beforeStepPass w order.dt _).2.2

theorem keyed_step (hk : s.contacts.Keyed) (w : World K) (order : StepOrder K) :
    (s.step w order).2.1.contacts.Keyed := by
  rw [sim_step]
  exact keyed_forgetOld (keyed_beforeStepPass hk order.dt _)

end Simulation

end RagdollDynamics
