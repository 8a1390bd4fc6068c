import RagdollDynamics.Proofs.Contact.Changes

/-!
# Whom contacts concern

Contacts outlive the detection that started them, but not the membership of their shapes' entities:
whatever happens to a simulation, each of its contacts joins a shape of the primary entity with one
of its own or of one of the others (`Simulation.Scoped`).
-/

namespace RagdollDynamics

namespace Simulation

variable {K : Type} {s s' : Simulation K} {w w' : World K} {a b : ShapeId}

/-- Every contact joins a shape of the primary entity with a shape that it faces. -/
def Scoped (s : Simulation K) (w : World K) : Prop := s.contacts.Within (s.Faces w)

theorem Faces.mono (h : s.Faces w a b) (hp : s'.entities.primary = s.entities.primary)
    (ho : s.entities.others ⊆ s'.entities.others)
    (hw : ∀ id, w.entityShapes id ⊆ w'.entityShapes id) : s'.Faces w' a b := by
  obtain ⟨p, hprimary, ha, hb⟩ := h
  refine ⟨p, hp.trans hprimary, hw p ha, ?_⟩
  rcases hb with hb | ⟨o, hmem, hb⟩
  · exact .inl (hw p hb)
  · exact .inr ⟨o, ho hmem, hw o hb⟩

theorem Scoped.eq_nil (hs : s.Scoped w) (hp : s.entities.primary = none) :
    s.contacts.toList = [] := by
  refine List.eq_nil_iff_forall_not_mem.2 fun c hc => ?_
  rcases hs c hc with ⟨p, hprimary, -⟩ | ⟨p, hprimary, -⟩ <;> exact nomatch hp.symm.trans hprimary

/-! ### What a command spares -/

/-- A primary entity that gives up its place takes along the contacts of every shape that faces
another one. -/
theorem Faces.purged_of_unseat (h : s.Faces w a b) :
    Command.purges s w (.setEntity none) a = true := by
  obtain ⟨p, hp, ha, -⟩ := h
  simp [Command.purges, hp, ha]

/-- A primary entity that is replaced takes along the contacts of its shapes. -/
theorem purges_of_replaced {new : Option EntityId} {o : Outcome .entity K}
    (ho : s.setEntity w new = .ok o) (hne : o.sim.entities.primary ≠ s.entities.primary) :
    Command.purges s w (.setEntity new) = Command.purges s w (.setEntity none) := by
  funext x
  cases new with
  | none => rfl
  | some id =>
    simp only [setEntity, promoteEntity] at ho
    split at ho
    next => exact absurd rfl (Except.ok.inj ho ▸ hne)
    next => exact absurd rfl (Except.ok.inj ho ▸ hne)
    next => cases ho
    next hv => simp only [Command.purges, hv]

theorem Faces.purged_of_replaced {new : Option EntityId} {o : Outcome .entity K}
    (h : s.Faces w a b) (ho : s.setEntity w new = .ok o)
    (hne : o.sim.entities.primary ≠ s.entities.primary) :
    Command.purges s w (.setEntity new) a = true := by
  rw [purges_of_replaced ho hne]
  exact h.purged_of_unseat

theorem Faces.promote {id : EntityId} {o : Outcome .entity K} (h : s.Faces w a b)
    (ha : Command.purges s w (.setEntity (some id)) a = false)
    (ho : s.promoteEntity w id = .ok o) : o.sim.Faces o.world a b := by
  unfold promoteEntity at ho
  split at ho
  next => exact Except.ok.inj ho ▸ h
  next => exact Except.ok.inj ho ▸ h
  next => exact nomatch ho
  next hv =>
    have hpurged := h.purged_of_unseat
    simp only [Command.purges, hv] at ha hpurged
    exact absurd hpurged (by simp [ha])

theorem Faces.dismiss {id : EntityId} (h : s.Faces w a b)
    (ha : Command.purges s w (.dismissEntity id) a = false)
    (hb : Command.purges s w (.dismissEntity id) b = false) :
    (s.dismissEntity w id).1.Faces w a b := by
  unfold dismissEntity
  split
  next hmem =>
    simp only [Command.purges, hmem, Bool.true_and, decide_eq_false_iff_not] at ha hb
    obtain ⟨p, hp, hap, hbo⟩ := h
    have hne : s.entities.primary ≠ some id := fun e =>
      ha (Option.some.inj (hp.symm.trans e) ▸ hap)
    have hleave : s.entities.leave id = ⟨some p, swapErase id s.entities.others⟩ := by
      rw [Roster.leave, if_neg hne, hp]
    refine ⟨p, congrArg Roster.primary hleave, hap, ?_⟩
    rcases hbo with hbo | ⟨o, ho, hbo⟩
    · exact .inl hbo
    · -- whoever lists `b` is not the one that leaves
      have hother : o ≠ id := fun e => hb (e ▸ hbo)
      refine .inr ⟨o, ?_, hbo⟩
      have hmem : o ∈ swapErase id s.entities.others :=
        (swapErase_perm id _).mem_iff.2 ((List.mem_erase_of_ne hother).2 ho)
      exact hleave ▸ hmem
  next => exact h

variable [Scalar K]

/-- Two shapes that face each other still do after a command that purges neither of them. -/
theorem Faces.perform {c : Command K} (h : s.Faces w a b) (hc : s.perform w c = .ok (s', w'))
    (ha : c.purges s w a = false) (hb : c.purges s w b = false) : s'.Faces w' a b := by
  have hshapes : ∀ id, w.entityShapes id ⊆ w'.entityShapes id := fun id => by
    rw [(perform_lawful hc).world.entityShapes]
    exact List.Subset.refl _
  have hsame : s'.entities = s.entities → s'.Faces w' a b := fun e =>
    h.mono (by rw [e]) (by rw [e]; exact List.Subset.refl _) hshapes
  cases c with
  | admitEntity id =>
    obtain ⟨o, ho, rfl, rfl⟩ := map_state_eq_ok hc
    have hjoin : o.sim.entities = s.entities ∨ o.sim.entities = s.entities.join id := by
      unfold admitEntity at ho
      split at ho <;> cases ho <;> first | exact .inl rfl | exact .inr rfl
    rcases hjoin with e | e
    · exact hsame e
    · exact h.mono (by rw [e]; rfl) (by rw [e]; exact List.subset_append_left _ _) hshapes
  | setEntity id =>
    cases id with
    | none => exact absurd h.purged_of_unseat (by simp [ha])
    | some id =>
      obtain ⟨o, ho, rfl, rfl⟩ := map_state_eq_ok hc
      exact h.promote ha ho
  | dismissEntity id =>
    obtain ⟨rfl, rfl⟩ := Prod.ext_iff.1 (Except.ok.inj hc)
    exact (h.dismiss ha hb).mono rfl (List.Subset.refl _) hshapes
  | disband => exact nomatch ha
  | _ => exact hsame (entities_perform hc rfl (by simp))

/-! ### What happens to the scope -/

theorem Scoped.step (hs : s.Scoped w) (order : StepOrder K) :
    (s.step w order).2.1.Scoped (s.step w order).2.2 := by
  obtain ⟨hsim, hworld⟩ := s.alike_step w order
  rw [Scoped, hsim.faces hworld]
  exact within_step hs (fun _ _ h => h) order

theorem Scoped.perform {c : Command K} (hs : s.Scoped w) (h : s.perform w c = .ok (s', w'))
    (hnote : c ≠ .noteContacts) : s'.Scoped w' := by
  by_cases hstep : ∃ order, c = .step order
  · obtain ⟨order, rfl⟩ := hstep
    obtain ⟨rfl, rfl⟩ := Prod.ext_iff.1 (Except.ok.inj h)
    exact hs.step order
  · rw [not_exists] at hstep
    refine ContactTable.Within.congr (fun k hk => ?_) (contacts_perform h hnote hstep).2
    obtain ⟨hmem, hspared⟩ := ContactTable.mem_toList_keep.1 hk
    obtain ⟨hlower, hupper⟩ := Command.purges_of_spares hspared
    rcases hs k hmem with hfaces | hfaces
    · exact .inl (hfaces.perform h hlower hupper)
    · exact .inr (hfaces.perform h hupper hlower)

/-- Noting what was just detected keeps every contact in scope. -/
theorem Scoped.note_detect (hs : (s.detect w).2.Scoped w) :
    ((s.detect w).2.noteContacts w).Scoped w := by
  refine ContactTable.Within.noteAll hs fun hit hmem b hb => ?_
  obtain ⟨b', hb', -, hfaces, -, -⟩ := faces_of_mem_detect hmem
  rw [hb] at hb'
  exact Option.some.inj hb' ▸ hfaces

/-- Contacts are only ever noted right after a detection. -/
def NotesFollowDetection (past : List (Happening K)) : Prop :=
  ∀ later earlier, past = later ++ .command .noteContacts :: earlier →
    earlier.head? = some (.command .detect)

theorem scoped_of_history {id : SimulationId} {config : Config K} {clock : Clock} {w₀ : World K}
    {past : List (Happening K)} (hnote : NotesFollowDetection past)
    (h : outcome Happening.act (fresh id config clock, w₀) past = .ok (s, w)) : s.Scoped w := by
  induction past generalizing s w with
  | nil =>
    obtain ⟨rfl, rfl⟩ := Prod.ext_iff.1 (Except.ok.inj h)
    exact fun c hc => nomatch hc
  | cons e past ih =>
    obtain ⟨⟨t, v⟩, hpast, hlast⟩ := outcome_cons_eq_ok.1 h
    have hs : t.Scoped v := ih (fun later earlier e => hnote (_ :: later) earlier (by rw [e]; rfl)) hpast
    cases e with
    | change f =>
      obtain ⟨rfl, rfl⟩ := Prod.ext_iff.1 (Except.ok.inj hlast)
      intro c hc
      exact (hs c hc).imp (fun h => h.mono rfl (List.Subset.refl _) (f.keeps v))
        fun h => h.mono rfl (List.Subset.refl _) (f.keeps v)
    | command c =>
      by_cases hc : c = .noteContacts
      · subst hc
        obtain ⟨rest, rfl⟩ := List.head?_eq_some_iff.1 (hnote [] past rfl)
        obtain ⟨⟨t₀, v₀⟩, -, hdetect⟩ := outcome_cons_eq_ok.1 hpast
        obtain ⟨rfl, rfl⟩ := Prod.ext_iff.1 (Except.ok.inj hdetect)
        obtain ⟨rfl, rfl⟩ := Prod.ext_iff.1 (Except.ok.inj hlast)
        exact hs.note_detect
      · exact hs.perform hlast hc

theorem Scoped.eq_nil_of_replaced {new : Option EntityId} {o : Outcome .entity K}
    (hs : s.Scoped w) (ho : s.setEntity w new = .ok o)
    (hne : o.sim.entities.primary ≠ s.entities.primary) : o.sim.contacts.toList = [] := by
  have hperform : s.perform w (.setEntity new) = .ok (o.sim, o.world) := by
    rw [Simulation.perform, ho]
    rfl
  have hout := (contacts_perform hperform (by simp) (by simp)).2
  have hnone : (s.contacts.keep (Command.spares s w (.setEntity new))).Within fun _ _ => False := by
    intro k hk
    obtain ⟨hmem, hspared⟩ := ContactTable.mem_toList_keep.1 hk
    obtain ⟨hlower, hupper⟩ := Command.purges_of_spares hspared
    rcases hs k hmem with hfaces | hfaces
    · exact absurd (hfaces.purged_of_replaced ho hne) (by simp [hlower])
    · exact absurd (hfaces.purged_of_replaced ho hne) (by simp [hupper])
  exact List.eq_nil_iff_forall_not_mem.2 fun k hk => or_self_iff.1 (hnone.congr hout k hk)

/-- **The scope of contacts.**  Whatever happens to a simulation and its world, if contacts are only
noted right after a detection, every contact joins a shape of the primary entity with another one of
its own or of one of the others.  So there are no contacts without a primary entity, nor right
after it was replaced. -/
theorem contacts_of_history (id : SimulationId) (config : Config K) (clock : Clock) (w₀ : World K)
    (past : List (Happening K)) (hnote : NotesFollowDetection past) (s : Simulation K) (w : World K)
    (h : outcome Happening.act (fresh id config clock, w₀) past = .ok (s, w)) :
    (∀ c ∈ s.contacts.toList, s.Faces w c.lower c.upper ∨ s.Faces w c.upper c.lower) ∧
    (s.entities.primary = none → s.contacts.toList = []) ∧
    ∀ new o, s.setEntity w new = .ok o → o.sim.entities.primary ≠ s.entities.primary →
      o.sim.contacts.toList = [] := by
  have hs := scoped_of_history hnote h
  exact ⟨hs, hs.eq_nil, fun new o ho hne => hs.eq_nil_of_replaced ho hne⟩

/-- Two balls in one place, each an entity of its own. -/
def pair : World Float32 where
  shapes := (Arena.empty.push (.ofForm (.sphere 1) 1)).push (.ofForm (.sphere 1) 1)
  entities := (Arena.empty.push ⟨.scenery [⟨0⟩], none⟩).push ⟨.scenery [⟨1⟩], none⟩
  ragdolls := .empty

/-- The first ball becomes the primary entity, the second one joins, and their collision is noted. -/
def pairing : List (Happening Float32) :=
  [.command .noteContacts, .command .detect, .command (.admitEntity ⟨1⟩),
    .command (.setEntity (some ⟨0⟩))]

theorem notesFollowDetection_pairing : NotesFollowDetection pairing := by
  intro later earlier h
  unfold pairing at h
  rcases later with _ | ⟨e₁, _ | ⟨e₂, _ | ⟨e₃, _ | ⟨e₄, later⟩⟩⟩⟩ <;> simp at h
  exact h ▸ rfl

theorem contacts_of_pairing : ∃ s w c,
    outcome Happening.act (fresh ⟨1⟩ .standard (.still 0), pair) pairing = .ok (s, w) ∧
      c ∈ s.contacts.toList ∧ (s.Faces w c.lower c.upper ∨ s.Faces w c.upper c.lower) := by
  have hrun : (outcome Happening.act (fresh ⟨1⟩ .standard (.still 0), pair) pairing).toOption.any
      (fun st => !st.1.contacts.toList.isEmpty) = true := by decide +kernel
  cases h : outcome Happening.act (fresh ⟨1⟩ .standard (.still 0), pair) pairing with
  | error v => simp [h, Except.toOption] at hrun
  | ok st =>
    obtain ⟨s, w⟩ := st
    have hfull : s.contacts.toList ≠ [] := by
      simpa [h, Except.toOption] using hrun
    obtain ⟨c, hc⟩ := List.exists_mem_of_ne_nil _ hfull
    exact ⟨s, w, c, rfl, hc, (contacts_of_history _ _ _ _ _ notesFollowDetection_pairing s w h).1 c hc⟩

end Simulation

end RagdollDynamics
