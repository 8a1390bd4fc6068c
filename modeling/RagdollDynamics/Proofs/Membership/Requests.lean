import RagdollDynamics.Proofs.Membership.Lawful

/-!
# What requests leave alone

A request about entities changes the entities and contacts of the simulation and the entities of
its world, and nothing else (`Simulation.entitiesOnly_perform`).  A request about ragdolls changes
the ragdolls of both and, through their mass scales, shapes (`Simulation.ragdollsOnly_perform`).
-/

namespace RagdollDynamics

variable {K : Type}

namespace Command

def asksEntity : Command K → Bool
  | .admitEntity _ => true
  | .setEntity _ => true
  | .dismissEntity _ => true
  | _ => false

def asksRagdoll : Command K → Bool
  | .admitRagdoll _ => true
  | .setRagdoll _ => true
  | .dismissRagdoll _ => true
  | _ => false

end Command

namespace Simulation

/-- The same but for entities, and contacts. -/
structure EntitiesOnly (s : Simulation K) (w : World K) (s' : Simulation K) (w' : World K) :
    Prop where
  sim : s' = { s with entities := s'.entities, contacts := s'.contacts }
  world : w' = { w with entities := w'.entities }

/-- The same but for ragdolls, and shapes. -/
structure RagdollsOnly (s : Simulation K) (w : World K) (s' : Simulation K) (w' : World K) :
    Prop where
  sim : s' = { s with ragdolls := s'.ragdolls }
  world : w' = { w with ragdolls := w'.ragdolls, shapes := w'.shapes }

variable {s s' s'' : Simulation K} {w w' w'' : World K}

/-! ### Entities -/

theorem EntitiesOnly.trans (h₁ : s.EntitiesOnly w s' w') (h₂ : s'.EntitiesOnly w' s'' w'') :
    s.EntitiesOnly w s'' w'' := by
  constructor
  · rw [h₂.sim, h₁.sim]
  · rw [h₂.world, h₁.world]

theorem entitiesOnly_admitEntity {id : EntityId} {o : Outcome .entity K}
    (h : s.admitEntity w id = .ok o) : s.EntitiesOnly w o.sim o.world := by
  unfold admitEntity at h
  split at h <;> cases h <;> exact ⟨rfl, rfl⟩

theorem entitiesOnly_setEntity {id : Option EntityId} {o : Outcome .entity K}
    (h : s.setEntity w id = .ok o) : s.EntitiesOnly w o.sim o.world := by
  have hleft : s.EntitiesOnly w (s.unseatEntity w).1 (s.unseatEntity w).2 := by
    unfold unseatEntity
    split <;> exact ⟨rfl, rfl⟩
  cases id with
  | none => exact Except.ok.inj h ▸ hleft
  | some id =>
    simp only [setEntity, promoteEntity] at h
    split at h
    · exact Except.ok.inj h ▸ ⟨rfl, rfl⟩
    · exact Except.ok.inj h ▸ ⟨rfl, rfl⟩
    · cases h
    · exact Except.ok.inj h ▸ hleft.trans ⟨rfl, rfl⟩

theorem entitiesOnly_dismissEntity (s : Simulation K) (w : World K) (id : EntityId) :
    s.EntitiesOnly w (s.dismissEntity w id).1 (s.dismissEntity w id).2 := by
  unfold dismissEntity
  split <;> exact ⟨rfl, rfl⟩

/-! ### Ragdolls -/

theorem RagdollsOnly.trans (h₁ : s.RagdollsOnly w s' w') (h₂ : s'.RagdollsOnly w' s'' w'') :
    s.RagdollsOnly w s'' w'' := by
  constructor
  · rw [h₂.sim, h₁.sim]
  · rw [h₂.world, h₁.world]

theorem ragdollsOnly_setRagdoll {id : Option RagdollId} {o : Outcome .ragdoll K}
    (h : s.setRagdoll w id = .ok o) : s.RagdollsOnly w o.sim o.world := by
  have hleft : s.RagdollsOnly w (s.unseatRagdoll w).1 (s.unseatRagdoll w).2 := by
    unfold unseatRagdoll
    split <;> exact ⟨rfl, rfl⟩
  cases id with
  | none => exact Except.ok.inj h ▸ hleft
  | some id =>
    simp only [setRagdoll, promoteRagdoll] at h
    split at h
    · exact Except.ok.inj h ▸ ⟨rfl, rfl⟩
    · exact Except.ok.inj h ▸ ⟨rfl, rfl⟩
    · cases h
    · exact Except.ok.inj h ▸ hleft.trans ⟨rfl, rfl⟩

variable [Scalar K]

/-- Another mass scale is for a ragdoll and its shapes. -/
theorem ragdollsOnly_rescale (s : Simulation K) (w : World K) (c : K) (id : RagdollId) :
    s.RagdollsOnly w s (w.rescaleRagdoll c id) := by
  unfold World.rescaleRagdoll World.actRagdoll
  split <;> exact ⟨rfl, rfl⟩

theorem ragdollsOnly_admitRagdoll {id : RagdollId} {o : Outcome .ragdoll K}
    (h : s.admitRagdoll w id = .ok o) : s.RagdollsOnly w o.sim o.world := by
  unfold admitRagdoll at h
  split at h
  · exact Except.ok.inj h ▸ ⟨rfl, rfl⟩
  · exact Except.ok.inj h ▸ ⟨rfl, rfl⟩
  · exact nomatch h
  · rw [← Except.ok.inj h]
    have hjoin : s.RagdollsOnly w { s with ragdolls := s.ragdolls.join id }
        { w with ragdolls := w.ragdolls.claim id s.id } := ⟨rfl, rfl⟩
    exact hjoin.trans (ragdollsOnly_rescale _ _ _ id)

theorem ragdollsOnly_dismissRagdoll (s : Simulation K) (w : World K) (id : RagdollId) :
    s.RagdollsOnly w (s.dismissRagdoll w id).1 (s.dismissRagdoll w id).2 := by
  unfold dismissRagdoll
  split
  · exact ⟨rfl, rfl⟩
  split
  · exact (s.ragdollsOnly_rescale w 1 id).trans ⟨rfl, rfl⟩
  · exact ⟨rfl, rfl⟩

/-! ### Commands -/

/-- **A request about entities** changes entities, and contacts. -/
theorem entitiesOnly_perform {c : Command K} (h : s.perform w c = .ok (s', w'))
    (hc : c.asksEntity = true) : s.EntitiesOnly w s' w' := by
  cases c with
  | admitEntity id =>
    obtain ⟨o, ho, rfl, rfl⟩ := map_state_eq_ok h
    exact entitiesOnly_admitEntity ho
  | setEntity id =>
    obtain ⟨o, ho, rfl, rfl⟩ := map_state_eq_ok h
    exact entitiesOnly_setEntity ho
  | dismissEntity id =>
    obtain ⟨rfl, rfl⟩ := Prod.ext_iff.1 (Except.ok.inj h)
    exact s.entitiesOnly_dismissEntity w id
  | _ => cases hc

/-- **A request about ragdolls** changes ragdolls, and shapes. -/
theorem ragdollsOnly_perform {c : Command K} (h : s.perform w c = .ok (s', w'))
    (hc : c.asksRagdoll = true) : s.RagdollsOnly w s' w' := by
  cases c with
  | admitRagdoll id =>
    obtain ⟨o, ho, rfl, rfl⟩ := map_state_eq_ok h
    exact ragdollsOnly_admitRagdoll ho
  | setRagdoll id =>
    obtain ⟨o, ho, rfl, rfl⟩ := map_state_eq_ok h
    exact ragdollsOnly_setRagdoll ho
  | dismissRagdoll id =>
    obtain ⟨rfl, rfl⟩ := Prod.ext_iff.1 (Except.ok.inj h)
    exact s.ragdollsOnly_dismissRagdoll w id
  | _ => cases hc

/-- The entities of a simulation stay the same unless a command asks about entities, or lets
everybody go. -/
theorem entities_perform {c : Command K} (h : s.perform w c = .ok (s', w'))
    (hasks : c.asksEntity = false) (hdisband : c ≠ .disband) : s'.entities = s.entities := by
  cases c with
  | admitEntity id | setEntity id | dismissEntity id => cases hasks
  | admitRagdoll id | setRagdoll id | dismissRagdoll id =>
    rw [(ragdollsOnly_perform h rfl).sim]
  | disband => exact absurd rfl hdisband
  | step order =>
    obtain ⟨rfl, rfl⟩ := Prod.ext_iff.1 (Except.ok.inj h)
    exact (s.alike_step w order).1.entities
  | detect | noteContacts | enforceContacts | rubContacts | resolve | forgetOld | forgetEntity id
  | forgetShape id | moveOrigin origin =>
    obtain ⟨rfl, rfl⟩ := Prod.ext_iff.1 (Except.ok.inj h)
    rfl

end Simulation

end RagdollDynamics
