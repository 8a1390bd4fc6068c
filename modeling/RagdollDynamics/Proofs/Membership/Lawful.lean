import RagdollDynamics.Proofs.Standing

/-!
# What a simulation may do to memberships

Every command is lawful: it keeps rosters and recorded owners in agreement, takes over only what
nobody owns, gives back only what the simulation itself owns, and leaves the shapes of entities as
they are.  In a settled state no request meets a stale record.
-/

namespace RagdollDynamics

namespace Slots

variable {k : HandleKind} {α : Type} {slots : Slots k α} {sim : SimulationId} {id h : Handle k}

@[simp] theorem body?_claim : (slots.claim id sim).body? h = slots.body? h := by
  unfold claim body?
  rw [Arena.find?_modify]
  split <;> simp [Function.comp_def]

theorem map_body_releasedBy (s : Option (Slot α)) :
    (s.map fun s => s.releasedBy sim).map Slot.body = s.map Slot.body := by
  cases s with
  | none => rfl
  | some s =>
    simp only [Option.map_some, Slot.releasedBy]
    split <;> rfl

@[simp] theorem body?_release : (slots.release sim id).body? h = slots.body? h := by
  unfold release body?
  rw [Arena.find?_modify]
  split
  · exact map_body_releasedBy _
  · rfl

@[simp] theorem body?_releaseAll : (slots.releaseAll sim).body? h = slots.body? h := by
  unfold releaseAll body?
  rw [Arena.find?_map]
  exact map_body_releasedBy _

theorem record?_release_of_ne (hne : h ≠ id) : (slots.release sim id).record? h = slots.record? h := by
  unfold release record?
  rw [Arena.find?_modify_of_ne _ hne.symm]

end Slots

/-! ### Lawful changes -/

/-- Owners change only between nobody and `sim`, and entities keep their shapes. -/
structure World.ChangedBy {K : Type} (sim : SimulationId) (w w' : World K) : Prop where
  entities : w.entities.ChangedBy sim w'.entities
  ragdolls : w.ragdolls.ChangedBy sim w'.ragdolls
  entityShapes : w'.entityShapes = w.entityShapes

namespace World

variable {K : Type} {w w' w'' : World K} {sim : SimulationId}

theorem Alike.changedBy (h : w.Alike w') : w.ChangedBy sim w' :=
  ⟨Slots.changedBy_of_record? h.entityRecord, Slots.changedBy_of_record? h.ragdollRecord,
    h.entityShapes⟩

theorem ChangedBy.trans (h₁ : w.ChangedBy sim w') (h₂ : w'.ChangedBy sim w'') :
    w.ChangedBy sim w'' :=
  ⟨h₁.entities.trans h₂.entities, h₁.ragdolls.trans h₂.ragdolls,
    h₂.entityShapes.trans h₁.entityShapes⟩

theorem ChangedBy.foldl {α : Type} {f : World K → α → World K}
    (hf : ∀ w a, ChangedBy sim w (f w a)) (l : List α) (w : World K) : w.ChangedBy sim (l.foldl f w) :=
  List.foldlRecOn l f (Alike.refl w).changedBy fun v hv a _ => hv.trans (hf v a)

/-- A change of recorded owners that leaves the entities themselves as they are. -/
theorem changedBy_entities {slots : Slots .entity (Entity K)}
    (hc : w.entities.ChangedBy sim slots) (hb : ∀ id, slots.body? id = w.entities.body? id) :
    w.ChangedBy sim { w with entities := slots } :=
  ⟨hc, Slots.changedBy_of_record? rfl, funext fun id => by simp [World.entityShapes, hb]⟩

theorem changedBy_ragdolls {slots : Slots .ragdoll (Ragdoll K)}
    (hc : w.ragdolls.ChangedBy sim slots) : w.ChangedBy sim { w with ragdolls := slots } :=
  ⟨Slots.changedBy_of_record? rfl, hc, rfl⟩

end World

namespace Simulation

variable {K : Type} {s s' s'' : Simulation K} {w w' w'' : World K}

/-- Both rosters of a simulation agree with what the world records. -/
structure Settled (s : Simulation K) (w : World K) : Prop where
  entities : s.entities.Settled s.config.maxEntities s.id w.entities
  ragdolls : s.ragdolls.Settled s.config.maxRagdolls s.id w.ragdolls

/-- What every command obeys. -/
structure Lawful (s : Simulation K) (w : World K) (s' : Simulation K) (w' : World K) : Prop where
  id : s'.id = s.id
  config : s'.config = s.config
  settled : s.Settled w → s'.Settled w'
  world : w.ChangedBy s.id w'

theorem Lawful.trans (h₁ : s.Lawful w s' w') (h₂ : s'.Lawful w' s'' w'') : s.Lawful w s'' w'' :=
  ⟨h₂.id.trans h₁.id, h₂.config.trans h₁.config, fun hs => h₂.settled (h₁.settled hs),
    h₁.world.trans (h₁.id ▸ h₂.world)⟩

/-- Whatever leaves members and owners alone is lawful. -/
theorem Alike.lawful (hs : s.Alike s') (hw : w.Alike w') : s.Lawful w s' w' := by
  refine ⟨hs.id, hs.config, fun h => ⟨?_, ?_⟩, hw.changedBy⟩
  · rw [hs.entities, hs.config, hs.id]
    exact h.entities.congr fun e => by simp [Slots.owner?, hw.entityRecord]
  · rw [hs.ragdolls, hs.config, hs.id]
    exact h.ragdolls.congr fun d => by simp [Slots.owner?, hw.ragdollRecord]

theorem Lawful.refl (s : Simulation K) (w : World K) : s.Lawful w s w :=
  Alike.lawful (.refl s) (.refl w)

theorem map_state_eq_ok {k : HandleKind} {x : Except Violation (Outcome k K)}
    (h : x.map Outcome.state = .ok (s', w')) : ∃ o, x = .ok o ∧ o.sim = s' ∧ o.world = w' := by
  cases x with
  | error v => exact nomatch h
  | ok o => exact ⟨o, rfl, Prod.ext_iff.1 (Except.ok.inj h)⟩

/-! ### Entities -/

theorem releaseEntity_changedBy (s : Simulation K) (w : World K) (id : EntityId) :
    w.ChangedBy s.id (s.releaseEntity w id) :=
  World.changedBy_entities Slots.changedBy_release fun _ => Slots.body?_release

theorem ragdolls_foldl_releaseEntity (s : Simulation K) (l : List EntityId) (w : World K) :
    (l.foldl s.releaseEntity w).ragdolls = w.ragdolls := by
  induction l generalizing w with
  | nil => rfl
  | cons id l ih => exact ih _

theorem admitEntity_lawful {id : EntityId} {o : Outcome .entity K} (h : s.admitEntity w id = .ok o) :
    s.Lawful w o.sim o.world := by
  unfold admitEntity at h
  split at h
  next => exact Except.ok.inj h ▸ .refl s w
  next => exact Except.ok.inj h ▸ .refl s w
  next => exact nomatch h
  next hg =>
    rw [← Except.ok.inj h]
    exact ⟨rfl, rfl, fun hs => ⟨hs.entities.join hg, hs.ragdolls⟩, World.changedBy_entities
      (Slots.changedBy_claim (Roster.admission_eq_granted_iff.1 hg).1) fun _ => Slots.body?_claim⟩

theorem unseatEntity_lawful (s : Simulation K) (w : World K) :
    s.Lawful w (s.unseatEntity w).1 (s.unseatEntity w).2 := by
  unfold unseatEntity
  split
  next => exact .refl s w
  next old hp =>
    exact ⟨rfl, rfl, fun hs => ⟨hs.entities.unseat hp, hs.ragdolls⟩, releaseEntity_changedBy s w old⟩

/-- An object without a place keeps its record when the primary entity gives up its own. -/
theorem unseatEntity_granted {id : EntityId}
    (hg : s.entities.promotion s.id (w.entities.record? id) id = .granted) :
    (s.unseatEntity w).1.entities.primary = none ∧
      (s.unseatEntity w).1.entities.contains id = false ∧
      (s.unseatEntity w).2.entities.record? id = some none := by
  obtain ⟨hrec, hnot⟩ := Roster.promotion_eq_granted_iff.1 hg
  unfold unseatEntity
  split
  next hp => exact ⟨hp, hnot, hrec⟩
  next old hp =>
    obtain ⟨hne, hvacant⟩ := Roster.contains_seat_none hp hnot
    exact ⟨rfl, hvacant, (Slots.record?_release_of_ne hne).trans hrec⟩

theorem promoteEntity_lawful {id : EntityId} {o : Outcome .entity K}
    (h : s.promoteEntity w id = .ok o) : s.Lawful w o.sim o.world := by
  unfold promoteEntity at h
  split at h
  next => exact Except.ok.inj h ▸ .refl s w
  next => exact Except.ok.inj h ▸ .refl s w
  next => exact nomatch h
  next hg =>
    rw [← Except.ok.inj h]
    have hleft := s.unseatEntity_lawful w
    obtain ⟨hp, hnot, hrec⟩ := unseatEntity_granted hg
    rw [← hleft.id]
    exact hleft.trans ⟨rfl, rfl,
      fun hs => ⟨hs.entities.seat hp hnot (by simp [hrec]), hs.ragdolls⟩,
      World.changedBy_entities (Slots.changedBy_claim hrec) fun _ => Slots.body?_claim⟩

theorem setEntity_lawful {id : Option EntityId} {o : Outcome .entity K}
    (h : s.setEntity w id = .ok o) : s.Lawful w o.sim o.world := by
  cases id with
  | some id => exact promoteEntity_lawful h
  | none => exact Except.ok.inj h ▸ s.unseatEntity_lawful w

theorem dismissEntity_lawful (s : Simulation K) (w : World K) (id : EntityId) :
    s.Lawful w (s.dismissEntity w id).1 (s.dismissEntity w id).2 := by
  unfold dismissEntity
  split
  · exact ⟨rfl, rfl, fun hs => ⟨hs.entities.leave, hs.ragdolls⟩, releaseEntity_changedBy s w id⟩
  · exact .refl s w

/-! ### Ragdolls -/

theorem releaseRagdoll_changedBy (s : Simulation K) (w : World K) (id : RagdollId) :
    w.ChangedBy s.id (s.releaseRagdoll w id) :=
  World.changedBy_ragdolls Slots.changedBy_release

theorem unseatRagdoll_lawful (s : Simulation K) (w : World K) :
    s.Lawful w (s.unseatRagdoll w).1 (s.unseatRagdoll w).2 := by
  unfold unseatRagdoll
  split
  next => exact .refl s w
  next old hp =>
    exact ⟨rfl, rfl, fun hs => ⟨hs.entities, hs.ragdolls.unseat hp⟩, releaseRagdoll_changedBy s w old⟩

theorem unseatRagdoll_granted {id : RagdollId}
    (hg : s.ragdolls.promotion s.id (w.ragdolls.record? id) id = .granted) :
    (s.unseatRagdoll w).1.ragdolls.primary = none ∧
      (s.unseatRagdoll w).1.ragdolls.contains id = false ∧
      (s.unseatRagdoll w).2.ragdolls.record? id = some none := by
  obtain ⟨hrec, hnot⟩ := Roster.promotion_eq_granted_iff.1 hg
  unfold unseatRagdoll
  split
  next hp => exact ⟨hp, hnot, hrec⟩
  next old hp =>
    obtain ⟨hne, hvacant⟩ := Roster.contains_seat_none hp hnot
    exact ⟨rfl, hvacant, (Slots.record?_release_of_ne hne).trans hrec⟩

theorem promoteRagdoll_lawful {id : RagdollId} {o : Outcome .ragdoll K}
    (h : s.promoteRagdoll w id = .ok o) : s.Lawful w o.sim o.world := by
  unfold promoteRagdoll at h
  split at h
  next => exact Except.ok.inj h ▸ .refl s w
  next => exact Except.ok.inj h ▸ .refl s w
  next => exact nomatch h
  next hg =>
    rw [← Except.ok.inj h]
    have hleft := s.unseatRagdoll_lawful w
    obtain ⟨hp, hnot, hrec⟩ := unseatRagdoll_granted hg
    rw [← hleft.id]
    exact hleft.trans ⟨rfl, rfl,
      fun hs => ⟨hs.entities, hs.ragdolls.seat hp hnot (by simp [hrec])⟩,
      World.changedBy_ragdolls (Slots.changedBy_claim hrec)⟩

theorem setRagdoll_lawful {id : Option RagdollId} {o : Outcome .ragdoll K}
    (h : s.setRagdoll w id = .ok o) : s.Lawful w o.sim o.world := by
  cases id with
  | some id => exact promoteRagdoll_lawful h
  | none => exact Except.ok.inj h ▸ s.unseatRagdoll_lawful w

variable [Scalar K]

theorem admitRagdoll_lawful {id : RagdollId} {o : Outcome .ragdoll K}
    (h : s.admitRagdoll w id = .ok o) : s.Lawful w o.sim o.world := by
  unfold admitRagdoll at h
  split at h
  next => exact Except.ok.inj h ▸ .refl s w
  next => exact Except.ok.inj h ▸ .refl s w
  next => exact nomatch h
  next hg =>
    rw [← Except.ok.inj h]
    have hjoin : s.Lawful w { s with ragdolls := s.ragdolls.join id }
        { w with ragdolls := w.ragdolls.claim id s.id } :=
      ⟨rfl, rfl, fun hs => ⟨hs.entities, hs.ragdolls.join hg⟩, World.changedBy_ragdolls
        (Slots.changedBy_claim (Roster.admission_eq_granted_iff.1 hg).1)⟩
    exact hjoin.trans (Alike.lawful (.refl _) (World.alike_actRagdoll _ id _))

theorem dismissRagdoll_lawful (s : Simulation K) (w : World K) (id : RagdollId) :
    s.Lawful w (s.dismissRagdoll w id).1 (s.dismissRagdoll w id).2 := by
  have hleave : ∀ w : World K,
      s.Lawful w { s with ragdolls := s.ragdolls.leave id } (s.releaseRagdoll w id) := fun w =>
    ⟨rfl, rfl, fun hs => ⟨hs.entities, hs.ragdolls.leave⟩, releaseRagdoll_changedBy s w id⟩
  unfold dismissRagdoll
  split
  · exact hleave w
  split
  · exact (Alike.lawful (.refl s) (World.alike_actRagdoll w id _)).trans (hleave _)
  · exact .refl s w

/-! ### Everybody at once -/

theorem releaseMembers_changedBy (s : Simulation K) (w : World K) :
    w.ChangedBy s.id (s.releaseMembers w) := by
  refine (World.ChangedBy.foldl (fun w id => ?_) s.ragdolls.others w).trans
    ((World.ChangedBy.foldl (releaseRagdoll_changedBy s) s.ragdolls.primary.toList _).trans
      (World.ChangedBy.foldl (releaseEntity_changedBy s) s.entities.members _))
  exact (World.alike_actRagdoll w id _).changedBy.trans (releaseRagdoll_changedBy s _ id)

theorem entities_foldl_rescale (s : Simulation K) (l : List RagdollId) (w : World K) :
    (l.foldl (fun w id => s.releaseRagdoll (w.rescaleRagdoll 1 id) id) w).entities = w.entities := by
  induction l generalizing w with
  | nil => rfl
  | cons id l ih =>
    rw [List.foldl_cons, ih]
    simp only [releaseRagdoll, World.rescaleRagdoll, World.actRagdoll]
    split <;> rfl

/-- No entity is left in the hands of a simulation that lets its members go. -/
theorem Settled.releaseMembers_entity (hs : s.Settled w) (id : EntityId) :
    (s.releaseMembers w).entities.owner? id ≠ some s.id := by
  have hprimary : ∀ w : World K,
      (s.ragdolls.primary.toList.foldl s.releaseRagdoll w).entities = w.entities := by
    intro w
    cases s.ragdolls.primary <;> rfl
  have hall : ∀ w : World K, (s.entities.members.foldl s.releaseEntity w).entities.owner? id =
      if id ∈ s.entities.members ∧ w.entities.owner? id = some s.id then none
      else w.entities.owner? id := fun w =>
    Slots.owner?_foldl_release s.id s.releaseEntity (fun w h => w.entities.owner? h)
      (fun _ _ _ => Slots.owner?_release) s.entities.members w id
  intro hown
  rw [releaseMembers, hall, hprimary, entities_foldl_rescale] at hown
  split at hown
  next => exact nomatch hown
  next hnot => exact hnot ⟨Roster.contains_iff_mem.1 ((hs.entities.owner?_iff id).1 hown), hown⟩

/-- Nor is any ragdoll. -/
theorem Settled.releaseMembers_ragdoll (hs : s.Settled w) (id : RagdollId) :
    (s.releaseMembers w).ragdolls.owner? id ≠ some s.id := by
  have hone : ∀ (w : World K) (id h : RagdollId),
      (s.releaseRagdoll (w.rescaleRagdoll 1 id) id).ragdolls.owner? h =
        if h = id ∧ w.ragdolls.owner? h = some s.id then none else w.ragdolls.owner? h := by
    intro w id h
    have hsame : (w.rescaleRagdoll 1 id).ragdolls.owner? h = w.ragdolls.owner? h := by
      simp [Slots.owner?, (World.alike_actRagdoll w id _).ragdollRecord, World.rescaleRagdoll]
    rw [releaseRagdoll, Slots.owner?_release, hsame]
  have hothers := Slots.owner?_foldl_release s.id
    (fun (w : World K) id => s.releaseRagdoll (w.rescaleRagdoll 1 id) id)
    (fun w h => w.ragdolls.owner? h) hone s.ragdolls.others w id
  have hprimary : ∀ w : World K,
      (s.ragdolls.primary.toList.foldl s.releaseRagdoll w).ragdolls.owner? id =
        if id ∈ s.ragdolls.primary.toList ∧ w.ragdolls.owner? id = some s.id then none
        else w.ragdolls.owner? id := fun w =>
    Slots.owner?_foldl_release s.id s.releaseRagdoll (fun w h => w.ragdolls.owner? h)
      (fun _ _ _ => Slots.owner?_release) s.ragdolls.primary.toList w id
  intro hown
  rw [releaseMembers, ragdolls_foldl_releaseEntity, hprimary, hothers] at hown
  by_cases h : w.ragdolls.owner? id = some s.id
  · have hmem : id ∈ s.ragdolls.members :=
      Roster.contains_iff_mem.1 ((hs.ragdolls.owner?_iff id).1 h)
    by_cases ho : id ∈ s.ragdolls.others
    · simp [ho, h] at hown
    · have hp : id ∈ s.ragdolls.primary.toList := (List.mem_append.1 hmem).resolve_right ho
      simp [hp, ho, h] at hown
  · simp [h] at hown

theorem disband_lawful (s : Simulation K) (w : World K) :
    s.Lawful w (s.disband w).1 (s.disband w).2 :=
  ⟨rfl, rfl, fun hs => ⟨Roster.settled_empty hs.releaseMembers_entity,
    Roster.settled_empty hs.releaseMembers_ragdoll⟩, releaseMembers_changedBy s w⟩

/-! ### Every command -/

/-- **Every command is lawful.** -/
theorem perform_lawful {c : Command K} (h : s.perform w c = .ok (s', w')) : s.Lawful w s' w' := by
  cases c with
  | admitEntity id =>
    obtain ⟨o, ho, rfl, rfl⟩ := map_state_eq_ok h
    exact admitEntity_lawful ho
  | admitRagdoll id =>
    obtain ⟨o, ho, rfl, rfl⟩ := map_state_eq_ok h
    exact admitRagdoll_lawful ho
  | setEntity id =>
    obtain ⟨o, ho, rfl, rfl⟩ := map_state_eq_ok h
    exact setEntity_lawful ho
  | setRagdoll id =>
    obtain ⟨o, ho, rfl, rfl⟩ := map_state_eq_ok h
    exact setRagdoll_lawful ho
  | dismissEntity id =>
    obtain ⟨rfl, rfl⟩ := Prod.ext_iff.1 (Except.ok.inj h)
    exact s.dismissEntity_lawful w id
  | dismissRagdoll id =>
    obtain ⟨rfl, rfl⟩ := Prod.ext_iff.1 (Except.ok.inj h)
    exact s.dismissRagdoll_lawful w id
  | disband =>
    obtain ⟨rfl, rfl⟩ := Prod.ext_iff.1 (Except.ok.inj h)
    exact s.disband_lawful w
  | step order =>
    obtain ⟨rfl, rfl⟩ := Prod.ext_iff.1 (Except.ok.inj h)
    exact Alike.lawful (s.alike_step w order).1 (s.alike_step w order).2
  | detect | noteContacts | enforceContacts | rubContacts | resolve | forgetOld | forgetEntity id
  | forgetShape id | moveOrigin origin =>
    obtain ⟨rfl, rfl⟩ := Prod.ext_iff.1 (Except.ok.inj h)
    exact Alike.lawful ⟨rfl, rfl, rfl, rfl⟩ ⟨rfl, rfl, rfl⟩

/-- **A settled simulation answers every command**: no request meets a stale record. -/
theorem Settled.perform_ok (hs : s.Settled w) (c : Command K) : ∃ st, s.perform w c = .ok st := by
  cases c with
  | admitEntity id =>
    have hne := hs.entities.admission_ne_stale id
    simp only [perform, admitEntity]
    split <;> simp_all [Except.map]
  | admitRagdoll id =>
    have hne := hs.ragdolls.admission_ne_stale id
    simp only [perform, admitRagdoll]
    split <;> simp_all [Except.map]
  | setEntity id =>
    cases id with
    | none => exact ⟨_, rfl⟩
    | some id =>
      have hne := hs.entities.promotion_ne_stale id
      simp only [perform, setEntity, promoteEntity]
      split <;> simp_all [Except.map]
  | setRagdoll id =>
    cases id with
    | none => exact ⟨_, rfl⟩
    | some id =>
      have hne := hs.ragdolls.promotion_ne_stale id
      simp only [perform, setRagdoll, promoteRagdoll]
      split <;> simp_all [Except.map]
  | dismissEntity id | dismissRagdoll id | disband | detect | noteContacts | enforceContacts
  | rubContacts | resolve | forgetOld | forgetEntity id | forgetShape id | moveOrigin origin
  | step order => exact ⟨_, rfl⟩

end Simulation

end RagdollDynamics
