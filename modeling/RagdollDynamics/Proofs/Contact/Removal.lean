import RagdollDynamics.Proofs.Contact.Scope

/-!
# Removal

An entity that gives up its place takes the contacts of its shapes with it.  What the last
detection found stays behind, though, and may still name those shapes: noted once more, it brings
their contacts back (`Simulation.contact_revived_by_stale_collision`).  As soon as the collisions
of the last detection are free of those shapes, nothing brings a contact of them back, in whatever
order commands follow (`Simulation.contacts_avoid_removed`).
-/

namespace RagdollDynamics

variable {K : Type}

/-- No contact is about one of the shapes. -/
def ContactTable.Avoids (t : ContactTable K) (shapes : List ShapeId) : Prop :=
  ∀ c ∈ t.toList, c.lower ∉ shapes ∧ c.upper ∉ shapes

/-- No collision is about one of the shapes. -/
def CollisionBuffer.Avoids (b : CollisionBuffer K) (shapes : List ShapeId) : Prop :=
  ∀ hit ∈ b.toList, ∀ x ∈ hit.parties, x ∉ shapes

/-- No other entity lists a shape of this one. -/
def World.Sole (w : World K) (e : EntityId) : Prop :=
  ∀ other, other ≠ e → ∀ x ∈ w.entityShapes other, x ∉ w.entityShapes e

namespace Command

def renews : Command K → Bool
  | .detect => true
  | .disband => true
  | .step _ => true
  | _ => false

/-- A command by which an entity loses its place: it is dismissed, or it is the primary entity and
another one, or none, takes its place. -/
def Removes (s s' : Simulation K) (e : EntityId) : Command K → Prop
  | .dismissEntity id => id = e
  | .setEntity _ => s.entities.primary = some e ∧ s'.entities.primary ≠ some e
  | _ => False

def act [Scalar K] (st : Simulation K × World K) (c : Command K) :
    Except Violation (Simulation K × World K) :=
  st.1.perform st.2 c

/-- A command that does not make an entity a member. -/
def KeepsOut [Scalar K] (e : EntityId) (st : Simulation K × World K) (c : Command K) : Prop :=
  ∀ after, act st c = .ok after → after.1.entities.contains e = false

/-- Contacts are only noted after a command that replaces what the last detection found. -/
def NotedAfterRenewal (later : List (Command K)) : Prop :=
  ∀ newer older, later = newer ++ .noteContacts :: older → ∃ c ∈ older, c.renews = true

theorem NotedAfterRenewal.tail {c : Command K} {later : List (Command K)}
    (h : NotedAfterRenewal (c :: later)) : NotedAfterRenewal later := by
  intro newer older he
  exact h (c :: newer) older (by rw [he]; rfl)

end Command

theorem ContactTable.avoids_iff_within {t : ContactTable K} {shapes : List ShapeId} :
    t.Avoids shapes ↔ t.Within fun a b => a ∉ shapes ∧ b ∉ shapes := by
  constructor
  · intro h c hc
    exact .inl (h c hc)
  · intro h c hc
    rcases h c hc with h | ⟨hupper, hlower⟩
    · exact h
    · exact ⟨hlower, hupper⟩

namespace Simulation

variable {s s' : Simulation K} {w w' : World K} {a b : ShapeId} {e : EntityId}

/-! ### Sound rosters -/

theorem sound_unseatEntity (hs : s.entities.Sound s.config.maxEntities) (w : World K) :
    (s.unseatEntity w).1.entities.Sound s.config.maxEntities := by
  unfold unseatEntity
  split
  · exact hs
  · exact hs.unseat

theorem sound_setEntity {id : Option EntityId} {o : Outcome .entity K}
    (hs : s.entities.Sound s.config.maxEntities) (h : s.setEntity w id = .ok o) :
    o.sim.entities.Sound s.config.maxEntities := by
  have hunseat := sound_unseatEntity hs w
  cases id with
  | none => exact Except.ok.inj h ▸ hunseat
  | some id =>
    simp only [setEntity, promoteEntity] at h
    split at h
    · exact Except.ok.inj h ▸ hs
    · exact Except.ok.inj h ▸ hs
    · cases h
    next hg =>
      rw [← Except.ok.inj h]
      have hnot := (unseatEntity_granted hg).2.1
      exact hunseat.seat (Roster.contains_eq_false_iff.1 hnot).2

theorem others_setEntity {id : Option EntityId} {o : Outcome .entity K}
    (h : s.setEntity w id = .ok o) : o.sim.entities.others = s.entities.others := by
  have hunseat : (s.unseatEntity w).1.entities.others = s.entities.others := by
    unfold unseatEntity
    split <;> rfl
  cases id with
  | none => exact Except.ok.inj h ▸ hunseat
  | some id =>
    simp only [setEntity, promoteEntity] at h
    split at h <;> cases h <;> first | rfl | exact hunseat

theorem sound_admitEntity {id : EntityId} {o : Outcome .entity K}
    (hs : s.entities.Sound s.config.maxEntities) (h : s.admitEntity w id = .ok o) :
    o.sim.entities.Sound s.config.maxEntities := by
  unfold admitEntity at h
  split at h
  · exact Except.ok.inj h ▸ hs
  · exact Except.ok.inj h ▸ hs
  · cases h
  next hg =>
    rw [← Except.ok.inj h]
    obtain ⟨-, hnot, hroom⟩ := Roster.admission_eq_granted_iff.1 hg
    exact hs.join hnot hroom

theorem sound_dismissEntity (hs : s.entities.Sound s.config.maxEntities) (w : World K)
    (id : EntityId) : (s.dismissEntity w id).1.entities.Sound s.config.maxEntities := by
  unfold dismissEntity
  split
  · exact hs.leave
  · exact hs

variable [Scalar K]

/-- A sound roster of entities stays sound, whatever the world records. -/
theorem sound_perform {c : Command K} (hs : s.entities.Sound s.config.maxEntities)
    (h : s.perform w c = .ok (s', w')) : s'.entities.Sound s'.config.maxEntities := by
  rw [(perform_lawful h).config]
  have hsame : s'.entities = s.entities → s'.entities.Sound s.config.maxEntities := by
    intro he
    rw [he]
    exact hs
  cases c with
  | admitEntity id =>
    obtain ⟨o, ho, rfl, rfl⟩ := map_state_eq_ok h
    exact sound_admitEntity hs ho
  | setEntity id =>
    obtain ⟨o, ho, rfl, rfl⟩ := map_state_eq_ok h
    exact sound_setEntity hs ho
  | dismissEntity id =>
    obtain ⟨rfl, rfl⟩ := Prod.ext_iff.1 (Except.ok.inj h)
    exact sound_dismissEntity hs w id
  | disband =>
    obtain ⟨rfl, rfl⟩ := Prod.ext_iff.1 (Except.ok.inj h)
    exact Roster.sound_empty
  | _ => exact hsame (entities_perform h rfl (by simp))

theorem sound_of_history {id : SimulationId} {config : Config K} {clock : Clock} {w₀ : World K}
    {past : List (Happening K)}
    (h : outcome Happening.act (fresh id config clock, w₀) past = .ok (s, w)) :
    s.entities.Sound s.config.maxEntities := by
  refine outcome_invariant (P := fun st => st.1.entities.Sound st.1.config.maxEntities)
    Roster.sound_empty (fun before e after hs hact => ?_) h
  cases e with
  | command c => exact sound_perform hs hact
  | change f => exact Except.ok.inj hact ▸ hs

/-! ### What the last detection found -/

/-- What the last detection found stays until a command replaces it. -/
theorem collisions_perform {c : Command K} (h : s.perform w c = .ok (s', w'))
    (hc : c.renews = false) : s'.collisions = s.collisions := by
  cases c with
  | admitEntity id | setEntity id | dismissEntity id => rw [(entitiesOnly_perform h rfl).sim]
  | admitRagdoll id | setRagdoll id | dismissRagdoll id => rw [(ragdollsOnly_perform h rfl).sim]
  | noteContacts | enforceContacts | rubContacts | resolve | forgetOld | forgetEntity id
  | forgetShape id | moveOrigin origin =>
    obtain ⟨rfl, rfl⟩ := Prod.ext_iff.1 (Except.ok.inj h)
    rfl
  | detect | disband | step order => cases hc

theorem faces_of_mem_step {hit : Collision K} {order : StepOrder K}
    (h : hit ∈ (s.step w order).2.1.collisions.toList) :
    ∃ b, hit.second = some b ∧ s.Faces w hit.first b := by
  obtain ⟨n, -, -, -, -, -, -, -, -, hsim⟩ := step_spec s w order
  rw [hsim] at h
  obtain ⟨hs, hw, -⟩ := s.alike_beforeStepPass w order.dt n
  obtain ⟨b, hb, -, hfaces, -⟩ := faces_of_mem_detect h
  exact ⟨b, hb, hs.faces hw ▸ hfaces⟩

omit [Scalar K] in
/-- A shape that faces another one belongs to a member, and so does the other one. -/
theorem Faces.notMem (h : s.Faces w a b) (hout : s.entities.contains e = false) (hsole : w.Sole e) :
    a ∉ w.entityShapes e ∧ b ∉ w.entityShapes e := by
  obtain ⟨hprimary, hothers⟩ := Roster.contains_eq_false_iff.1 hout
  obtain ⟨p, hp, ha, hb⟩ := h
  have hpe : p ≠ e := fun he => hprimary (he ▸ hp)
  refine ⟨hsole p hpe a ha, ?_⟩
  rcases hb with hb | ⟨o, ho, hb⟩
  · exact hsole p hpe b hb
  · exact hsole o (fun he => hothers (he ▸ ho)) b hb

theorem collisions_avoid_of_renews {c : Command K} (h : s.perform w c = .ok (s', w'))
    (hc : c.renews = true) (hout : s.entities.contains e = false) (hsole : w.Sole e) :
    s'.collisions.Avoids (w.entityShapes e) := by
  have hfaces : ∀ hit : Collision K, (∃ b, hit.second = some b ∧ s.Faces w hit.first b) →
      ∀ x ∈ hit.parties, x ∉ w.entityShapes e := by
    rintro hit ⟨b, hb, hab⟩ x hx
    obtain ⟨hfirst, hsecond⟩ := hab.notMem hout hsole
    rw [Collision.parties, hb] at hx
    rcases List.mem_cons.1 hx with rfl | hx
    · exact hfirst
    · rw [Option.toList_some, List.mem_singleton] at hx
      exact hx ▸ hsecond
  cases c with
  | detect =>
    obtain ⟨rfl, rfl⟩ := Prod.ext_iff.1 (Except.ok.inj h)
    intro hit hmem
    obtain ⟨b, hb, -, hab, -⟩ := faces_of_mem_detect hmem
    exact hfaces hit ⟨b, hb, hab⟩
  | disband =>
    obtain ⟨rfl, rfl⟩ := Prod.ext_iff.1 (Except.ok.inj h)
    intro hit hmem
    exact nomatch hmem
  | step order =>
    obtain ⟨rfl, rfl⟩ := Prod.ext_iff.1 (Except.ok.inj h)
    intro hit hmem
    exact hfaces hit (faces_of_mem_step hmem)
  | _ => cases hc

/-! ### Contacts of an entity that is out -/

/-- While an entity is out, its shapes get no contacts, unless collisions that name them are noted. -/
theorem contacts_avoid_perform {c : Command K} (h : s.perform w c = .ok (s', w'))
    (hout : s.entities.contains e = false) (hsole : w.Sole e)
    (hcontacts : s.contacts.Avoids (w.entityShapes e))
    (hnote : c = .noteContacts → s.collisions.Avoids (w.entityShapes e)) :
    s'.contacts.Avoids (w.entityShapes e) := by
  rw [ContactTable.avoids_iff_within] at hcontacts ⊢
  by_cases hc : c = .noteContacts
  · subst hc
    obtain ⟨rfl, rfl⟩ := Prod.ext_iff.1 (Except.ok.inj h)
    refine hcontacts.noteAll fun hit hmem b hb => ?_
    have havoid := hnote rfl hit hmem
    rw [Collision.parties, hb] at havoid
    exact ⟨havoid hit.first (by simp), havoid b (by simp)⟩
  by_cases hstep : ∃ order, c = .step order
  · obtain ⟨order, rfl⟩ := hstep
    obtain ⟨rfl, rfl⟩ := Prod.ext_iff.1 (Except.ok.inj h)
    exact within_step hcontacts (fun a b hab => hab.notMem hout hsole) order
  · rw [not_exists] at hstep
    refine ContactTable.Within.congr (fun k hk => ?_) (contacts_perform h hc hstep).2
    exact hcontacts k (ContactTable.mem_toList_keep.1 hk).1

/-- **Who loses its place is out**, and its contacts are forgotten. -/
theorem removed_perform {c : Command K} (h : s.perform w c = .ok (s', w'))
    (hs : s.entities.Sound s.config.maxEntities) (hmem : s.entities.contains e = true)
    (hc : c.Removes s s' e) :
    s'.entities.contains e = false ∧ s'.contacts.Avoids (w.entityShapes e) := by
  have hspared : ∀ {c : Command K}, s.perform w c = .ok (s', w') → c ≠ .noteContacts →
      (∀ order, c ≠ .step order) → (∀ x ∈ w.entityShapes e, c.purges s w x = true) →
      s'.contacts.Avoids (w.entityShapes e) := by
    intro c h hnote hstep hpurged
    rw [ContactTable.avoids_iff_within]
    refine ContactTable.Within.congr (fun k hk => ?_) (contacts_perform h hnote hstep).2
    obtain ⟨hlower, hupper⟩ := Command.purges_of_spares (ContactTable.mem_toList_keep.1 hk).2
    refine .inl ⟨fun hx => ?_, fun hx => ?_⟩
    · exact Bool.noConfusion (hlower.symm.trans (hpurged _ hx))
    · exact Bool.noConfusion (hupper.symm.trans (hpurged _ hx))
  cases c with
  | dismissEntity id =>
    obtain rfl : id = e := hc
    refine ⟨?_, hspared h (by simp) (by simp) fun x hx => by simp [Command.purges, hmem, hx]⟩
    obtain ⟨rfl, rfl⟩ := Prod.ext_iff.1 (Except.ok.inj h)
    have hleave : (s.dismissEntity w id).1.entities = s.entities.leave id := by
      rw [dismissEntity, if_pos hmem]
      rfl
    rw [hleave, Bool.eq_false_iff, Ne, Roster.contains_leave hs]
    exact fun hid => hid.2 rfl
  | setEntity new =>
    obtain ⟨hprimary, hne⟩ := hc
    obtain ⟨o, ho, rfl, rfl⟩ := map_state_eq_ok h
    refine ⟨Roster.contains_eq_false_iff.2 ⟨hne, ?_⟩, hspared h (by simp) (by simp) fun x hx => ?_⟩
    · rw [others_setEntity ho]
      exact hs.primary_notMem e hprimary
    · rw [purges_of_replaced ho fun heq => hne (heq.trans hprimary)]
      simp [Command.purges, hprimary, hx]
  | _ => exact hc.elim

/-- What the later commands keep: the entity is out, its shapes have no contacts, and once the last
detection is renewed no collision that was found names them either. -/
theorem contacts_avoid_of_commands {start : Simulation K × World K} {later : List (Command K)}
    {shapes : List ShapeId} (hshapes : start.2.entityShapes e = shapes) (hsole : start.2.Sole e)
    (hout : start.1.entities.contains e = false) (hcontacts : start.1.contacts.Avoids shapes)
    (habsent : Observes Command.act start (Command.KeepsOut e) later)
    (hnoted : start.1.collisions.Avoids shapes ∨ Command.NotedAfterRenewal later)
    (hrun : outcome Command.act start later = .ok (s, w)) :
    w.entityShapes = start.2.entityShapes ∧ s.entities.contains e = false ∧
      s.contacts.Avoids shapes ∧
      (start.1.collisions.Avoids shapes ∨ (∃ c ∈ later, c.renews = true) →
        s.collisions.Avoids shapes) := by
  induction later generalizing s w with
  | nil =>
    obtain ⟨rfl, rfl⟩ := Prod.ext_iff.1 (Except.ok.inj hrun)
    exact ⟨rfl, hout, hcontacts, fun h => h.resolve_right (by simp)⟩
  | cons c later ih =>
    obtain ⟨⟨t, v⟩, hpast, hlast⟩ := outcome_cons_eq_ok.1 hrun
    obtain ⟨hv, ht, htcontacts, htcollisions⟩ :=
      ih habsent.1 (hnoted.imp_right Command.NotedAfterRenewal.tail) hpast
    have hvshapes : v.entityShapes e = shapes := by rw [hv, hshapes]
    have hvsole : v.Sole e := by rwa [World.Sole, hv]
    rw [← hvshapes] at htcontacts htcollisions hnoted ⊢
    refine ⟨(perform_lawful hlast).world.entityShapes.trans hv, habsent.2 _ hpast _ hlast, ?_, ?_⟩
    · refine contacts_avoid_perform hlast ht hvsole htcontacts fun hc => htcollisions ?_
      exact hnoted.imp_right fun h => h [] later (by rw [hc]; rfl)
    · intro h
      cases hc : c.renews with
      | true => exact collisions_avoid_of_renews hlast hc ht hvsole
      | false =>
        rw [collisions_perform hlast hc]
        refine htcollisions (h.imp_right ?_)
        rintro ⟨d, hd, hd'⟩
        rcases List.mem_cons.1 hd with rfl | hd
        · exact absurd hd' (by simp [hc])
        · exact ⟨d, hd, hd'⟩

/-- **Removal is complete once the last detection is renewed.**  In every state that a history leads
to, an entity that loses its place is out, and the contacts of its shapes are forgotten.  If no
other entity lists those shapes, they get no contact by any further commands in any order that do
not make the entity a member again, provided that the collisions of the last detection do not name
them or contacts are only noted after that detection was renewed. -/
theorem contacts_avoid_removed (id : SimulationId) (config : Config K) (clock : Clock)
    (w₀ : World K) (past : List (Happening K)) (s : Simulation K) (w : World K)
    (run : outcome Happening.act (fresh id config clock, w₀) past = .ok (s, w)) (e : EntityId)
    (hmem : s.entities.contains e = true) (hsole : w.Sole e) (c : Command K) (s₁ : Simulation K)
    (w₁ : World K) (hc : s.perform w c = .ok (s₁, w₁)) (hremoves : c.Removes s s₁ e) :
    s₁.entities.contains e = false ∧ s₁.contacts.Avoids (w₁.entityShapes e) ∧
    ∀ later s₂ w₂, outcome Command.act (s₁, w₁) later = .ok (s₂, w₂) →
      Observes Command.act (s₁, w₁) (Command.KeepsOut e) later →
      s₁.collisions.Avoids (w₁.entityShapes e) ∨ Command.NotedAfterRenewal later →
      s₂.contacts.Avoids (w₂.entityShapes e) := by
  obtain ⟨hout, hcontacts⟩ := removed_perform hc (sound_of_history run) hmem hremoves
  have hshapes : w₁.entityShapes = w.entityShapes := (perform_lawful hc).world.entityShapes
  rw [← hshapes] at hcontacts
  have hsole₁ : w₁.Sole e := by rwa [World.Sole, hshapes]
  refine ⟨hout, hcontacts, fun later s₂ w₂ hrun habsent hnoted => ?_⟩
  obtain ⟨hw₂, -, havoid, -⟩ :=
    contacts_avoid_of_commands rfl hsole₁ hout hcontacts habsent hnoted hrun
  rw [hw₂]
  exact havoid

theorem sole_pair : pair.Sole ⟨1⟩ := by
  intro other hne x hx
  have hother : other.index ≠ 1 := fun h => hne (Handle.index_inj.1 h)
  match hi : other.index with
  | 0 =>
    have hshapes : pair.entityShapes other = [⟨0⟩] := by
      simp [World.entityShapes, Slots.body?, Arena.find?, pair, Arena.push, Arena.empty, hi,
        Entity.shapes]
    rw [hshapes, List.mem_singleton] at hx
    subst hx
    decide
  | 1 => exact absurd hi hother
  | n + 2 =>
    have hshapes : pair.entityShapes other = [] := by
      simp [World.entityShapes, Slots.body?, Arena.find?, pair, Arena.push, Arena.empty, hi]
    rw [hshapes] at hx
    cases hx

theorem sole_of_pairing {s : Simulation Float32} {w : World Float32}
    (h : outcome Happening.act (fresh ⟨1⟩ .standard (.still 0), pair) pairing = .ok (s, w)) :
    w.Sole ⟨1⟩ := by
  have hcommands : Observes Happening.act (fresh ⟨1⟩ .standard (.still 0), pair)
      (fun _ e => ∃ c, e = .command c) pairing := by
    simp [Observes, pairing]
  have hkept : w.entityShapes = pair.entityShapes := by
    refine outcome_invariant_of_observes (P := fun st => st.2.entityShapes = pair.entityShapes) rfl
      (fun before e after hb he hact => ?_) hcommands h
    obtain ⟨c, rfl⟩ := he
    exact (perform_lawful hact).world.entityShapes.trans hb
  have hpair := sole_pair
  rwa [World.Sole, hkept]

/-- The second ball leaves after a detection found it; another detection follows before contacts
are noted. -/
theorem contacts_avoid_removed_of_pairing : ∃ s w s₁ w₁ s₂ w₂,
    outcome Happening.act (fresh ⟨1⟩ .standard (.still 0), pair) pairing = .ok (s, w) ∧
      s.perform w (.dismissEntity ⟨1⟩) = .ok (s₁, w₁) ∧
      outcome Command.act (s₁, w₁) [.noteContacts, .detect] = .ok (s₂, w₂) ∧
      s₂.contacts.Avoids (w₂.entityShapes ⟨1⟩) := by
  have hrun : (outcome Happening.act (fresh ⟨1⟩ .standard (.still 0), pair) pairing).toOption.any
      (fun st => st.1.entities.contains ⟨1⟩) = true := by decide +kernel
  cases h : outcome Happening.act (fresh ⟨1⟩ .standard (.still 0), pair) pairing with
  | error v => simp [h, Except.toOption] at hrun
  | ok st =>
    obtain ⟨s, w⟩ := st
    have hmem : s.entities.contains ⟨1⟩ = true := by
      simpa [h, Except.toOption] using hrun
    obtain ⟨hout, -, hlater⟩ := contacts_avoid_removed ⟨1⟩ .standard (.still 0) pair pairing s w h ⟨1⟩
      hmem (sole_of_pairing h) (.dismissEntity ⟨1⟩) _ _ rfl rfl
    refine ⟨s, w, _, _, _, _, rfl, rfl, rfl, hlater [.noteContacts, .detect] _ _ rfl ?_ ?_⟩
    · -- neither detecting nor noting changes who is a member
      refine ⟨⟨trivial, fun st hst after hafter => ?_⟩, fun st hst after hafter => ?_⟩
      · rw [← Except.ok.inj hafter, ← Except.ok.inj hst]
        exact hout
      · rw [← Except.ok.inj hafter, ← Except.ok.inj hst]
        exact hout
    · refine .inr fun newer older he => ?_
      rcases newer with - | ⟨c₁, - | ⟨c₂, newer⟩⟩
      · obtain rfl : [.detect] = older := (List.cons.inj he).2
        exact ⟨.detect, List.mem_singleton_self _, rfl⟩
      · simp at he
      · simp at he

/-- **Removal is not complete while the last detection stands.**  The second ball is dismissed after
a detection found it, and no other entity lists its shape.  Noted once more, the collision brings
its contact back. -/
theorem contact_revived_by_stale_collision : ∃ s w s₁ w₁ s₂ w₂,
    outcome Happening.act (fresh ⟨1⟩ .standard (.still 0), pair) pairing = .ok (s, w) ∧
      s.entities.contains ⟨1⟩ = true ∧ w.Sole ⟨1⟩ ∧
      s.perform w (.dismissEntity ⟨1⟩) = .ok (s₁, w₁) ∧
      outcome Command.act (s₁, w₁) [.noteContacts] = .ok (s₂, w₂) ∧
      s₂.entities.contains ⟨1⟩ = false ∧ ¬ s₂.contacts.Avoids (w₂.entityShapes ⟨1⟩) := by
  have hrun : (outcome Happening.act (fresh ⟨1⟩ .standard (.still 0), pair) pairing).toOption.any
      (fun st => st.1.entities.contains ⟨1⟩ &&
        let removed := st.1.dismissEntity st.2 ⟨1⟩
        let noted := removed.1.noteContacts removed.2
        !noted.entities.contains ⟨1⟩ &&
          noted.contacts.toList.any fun c => c.upper ∈ removed.2.entityShapes ⟨1⟩) = true := by
    decide +kernel
  cases h : outcome Happening.act (fresh ⟨1⟩ .standard (.still 0), pair) pairing with
  | error v => simp [h, Except.toOption] at hrun
  | ok st =>
    obtain ⟨s, w⟩ := st
    simp only [h, Except.toOption, Option.any_some, Bool.and_eq_true, Bool.not_eq_true',
      List.any_eq_true, decide_eq_true_eq] at hrun
    obtain ⟨hmem, hout, c, hc, hupper⟩ := hrun
    exact ⟨s, w, _, _, _, _, rfl, hmem, sole_of_pairing h, rfl, rfl, hout,
      fun havoid => (havoid c hc).2 hupper⟩

end Simulation

end RagdollDynamics
