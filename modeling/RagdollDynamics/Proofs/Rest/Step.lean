import RagdollDynamics.Proofs.Collision.Detection
import RagdollDynamics.Proofs.Exact.Overlap
import RagdollDynamics.Proofs.Frame.Independence
import RagdollDynamics.Proofs.Rest.Bodies

/-!
# Steps at rest

A simulation and its world are at rest (`Simulation.AtRest`) if there is no contact, nothing that
detection tests overlaps, and every other entity and every ragdoll is at rest.  Then each phase of a
step finds nothing to do, so a step keeps them at rest, and so does a run of any number of steps:
nothing moves, and every step reports that nothing happened (`Simulation.run_of_atRest`).
-/

namespace RagdollDynamics

/-! ### Shapes that do not overlap -/

namespace Shapes

variable {K : Type} [Scalar K] {shapes : Shapes K} {a b : ShapeId}

/-- Two different shapes exist, and the first one reaches into the second one. -/
def Overlapping (shapes : Shapes K) (a b : ShapeId) : Prop :=
  a ≠ b ∧ ∃ s t, shapes.find? a = some s ∧ shapes.find? b = some t ∧
    (s.toSolid.overlap? t.toSolid).isSome

/-- What is reported to overlap does: balls of the two shapes meet, or a ball of the one reaches
behind the other. -/
theorem Overlapping.meets {shapes : Shapes ℝ} {s t : Shape ℝ} (h : shapes.Overlapping a b)
    (hs : shapes.find? a = some s) (ht : shapes.find? b = some t) (properA : 0 ≤ s.form.radius)
    (properB : 0 ≤ t.form.radius) : s.toSolid.Meets t.toSolid := by
  obtain ⟨-, s', t', hs', ht', reported⟩ := h
  obtain rfl := Option.some.inj (hs.symm.trans hs')
  obtain rfl := Option.some.inj (ht.symm.trans ht')
  exact Solid.meets_of_overlap? properA properB reported

theorem collision?_eq_none (apart : ¬shapes.Overlapping a b) : shapes.collision? a b = none := by
  unfold collision?
  split
  · rfl
  next ne =>
    cases hs : shapes.find? a with
    | none => rfl
    | some s =>
      cases ht : shapes.find? b with
      | none => rfl
      | some t =>
        have clear : s.toSolid.overlap? t.toSolid = none :=
          Option.not_isSome_iff_eq_none.1 fun o => apart ⟨ne, s, t, hs, ht, o⟩
        simp only [Option.bind_some, clear, Option.map_none]

end Shapes

namespace Simulation

/-! ### Rest -/

/-- There is no contact, nothing that detection tests overlaps, and every other entity and every
ragdoll is at rest. -/
structure AtRest (s : Simulation ℝ) (w : World ℝ) : Prop where
  noContacts : s.contacts = .empty
  ownApart : ∀ e, s.entities.primary.bind w.entities.body? = some e →
    ∀ (i j : Nat) (a b : ShapeId), i < j → e.shapes[i]? = some a → e.shapes[j]? = some b →
      e.allows i j → ¬w.shapes.Overlapping a b
  othersApart : ∀ e, s.entities.primary.bind w.entities.body? = some e →
    ∀ id ∈ s.entities.others, ∀ a ∈ e.shapes, ∀ b ∈ w.entityShapes id, ¬w.shapes.Overlapping a b
  entities : ∀ id ∈ s.entities.others, ∀ e, w.entities.body? id = some e → e.AtRest
  ragdolls : ∀ id ∈ s.ragdolls.members, ∀ r, w.ragdolls.body? id = some r →
    r.AtRest s.origin w.shapes

/-- No shape changed, the other entities at most forgot forces, and the ragdolls were at most told
where the frame of the simulation sits. -/
structure Still (s : Simulation ℝ) (w w' : World ℝ) : Prop where
  shapes : w'.shapes = w.shapes
  entities : w.entities.ChangedOn (Slot.Kept Entity.Calmed) s.entities.others w'.entities
  ragdolls :
    w.ragdolls.ChangedOn (Slot.Kept (Ragdoll.Framed s.origin)) s.ragdolls.members w'.ragdolls

variable {s s' : Simulation ℝ} {w w' w'' : World ℝ}

theorem Still.refl (s : Simulation ℝ) (w : World ℝ) : s.Still w w := ⟨rfl, .refl _ _, .refl _ _⟩

theorem Still.trans (h₁ : s.Still w w') (h₂ : s.Still w' w'') : s.Still w w'' :=
  ⟨h₂.shapes.trans h₁.shapes, h₁.entities.trans h₂.entities, h₁.ragdolls.trans h₂.ragdolls⟩

theorem Still.entity? (h : s.Still w w') {id : EntityId} {e' : Entity ℝ}
    (he' : w'.entities.body? id = some e') : ∃ e, w.entities.body? id = some e ∧ e.Calmed e' := by
  obtain ⟨slot', hslot', rfl⟩ := Option.map_eq_some_iff.1 he'
  obtain ⟨slot, hslot, kept⟩ := h.entities.exists_of_find? hslot'
  exact ⟨slot.body, by rw [Slots.body?, hslot, Option.map_some], kept.body⟩

theorem Still.ragdoll? (h : s.Still w w') {id : RagdollId} {r' : Ragdoll ℝ}
    (hr' : w'.ragdolls.body? id = some r') :
    ∃ r, w.ragdolls.body? id = some r ∧ r.Framed s.origin r' := by
  obtain ⟨slot', hslot', rfl⟩ := Option.map_eq_some_iff.1 hr'
  obtain ⟨slot, hslot, kept⟩ := h.ragdolls.exists_of_find? hslot'
  exact ⟨slot.body, by rw [Slots.body?, hslot, Option.map_some], kept.body⟩

theorem Still.entityShapes (h : s.Still w w') (id : EntityId) :
    w'.entityShapes id = w.entityShapes id := by
  have listed := h.entities.map_find? (v := fun slot => slot.body.shapes)
    (fun _ _ kept => kept.body.shapes_eq) id
  simpa [World.entityShapes, Slots.body?, Function.comp_def] using congrArg (·.getD []) listed

/-- Rest is kept by what leaves everything still. -/
theorem AtRest.of_still (rest : s.AtRest w) (h : s.Still w w') : s.AtRest w' where
  noContacts := rest.noContacts
  ownApart e' he' i j a b lt ha hb allowed := by
    obtain ⟨p, hp, hbody⟩ := Option.bind_eq_some_iff.1 he'
    obtain ⟨e, he, calmed⟩ := h.entity? hbody
    rw [calmed.shapes_eq] at ha hb
    rw [calmed.allows_eq] at allowed
    rw [h.shapes]
    exact rest.ownApart e (by rw [hp, Option.bind_some, he]) i j a b lt ha hb allowed
  othersApart e' he' id hid a ha b hb := by
    obtain ⟨p, hp, hbody⟩ := Option.bind_eq_some_iff.1 he'
    obtain ⟨e, he, calmed⟩ := h.entity? hbody
    rw [calmed.shapes_eq] at ha
    rw [h.entityShapes] at hb
    rw [h.shapes]
    exact rest.othersApart e (by rw [hp, Option.bind_some, he]) id hid a ha b hb
  entities id hid e' he' := by
    obtain ⟨e, he, calmed⟩ := h.entity? he'
    exact (rest.entities id hid e he).of_calmed calmed
  ragdolls id hid r' hr' := by
    obtain ⟨r, hr, framed⟩ := h.ragdoll? hr'
    rw [h.shapes]
    exact (rest.ragdolls id hid r hr).of_framed framed

/-- Rest looks at the contacts, the members and the place of the simulation only. -/
theorem AtRest.congr (rest : s.AtRest w) (contacts : s'.contacts = s.contacts)
    (entities : s'.entities = s.entities) (ragdolls : s'.ragdolls = s.ragdolls)
    (origin : s'.origin = s.origin) : s'.AtRest w where
  noContacts := contacts.trans rest.noContacts
  ownApart := by rw [entities]; exact rest.ownApart
  othersApart := by rw [entities]; exact rest.othersApart
  entities := by rw [entities]; exact rest.entities
  ragdolls := by rw [ragdolls, origin]; exact rest.ragdolls

/-! ### Bodies in a step at rest -/

section Bodies

variable (rest : s.AtRest w)
include rest

theorem still_stepEntity {id : EntityId} (hid : id ∈ s.entities.others) (dt : ℝ) :
    s.Still w (w.actEntity id fun e shapes => e.step dt shapes) := by
  unfold World.actEntity
  cases he : w.entities.body? id with
  | none => exact .refl s w
  | some e =>
    simp only [Entity.step_of_atRest (rest.entities id hid e he)]
    exact ⟨rfl, Slots.changedOn_replace hid he (.inr rfl), .refl _ _⟩

theorem still_stepRagdoll {id : RagdollId} (hid : id ∈ s.ragdolls.members) (dt : ℝ) :
    s.Still w (w.actRagdoll id fun r shapes => r.step dt shapes) := by
  unfold World.actRagdoll
  cases hr : w.ragdolls.body? id with
  | none => exact .refl s w
  | some r =>
    simp only [Ragdoll.step_of_atRest (rest.ragdolls id hid r hr)]
    exact ⟨rfl, .refl _ _, Slots.changedOn_replace hid hr (.inl rfl)⟩

theorem still_recenter {id : RagdollId} (hid : id ∈ s.ragdolls.members) (recording : Bool) :
    s.Still w (s.recenter recording w id) := by
  unfold recenter World.actRagdoll
  cases hr : w.ragdolls.body? id with
  | none => exact .refl s w
  | some r =>
    simp only [Ragdoll.recenter_of_atRest (rest.ragdolls id hid r hr)]
    exact ⟨rfl, .refl _ _, Slots.changedOn_replace hid hr (.inr rfl)⟩

theorem still_foldl {α : Type} {f : World ℝ → α → World ℝ} {l : List α}
    (each : ∀ v, s.AtRest v → ∀ a ∈ l, s.Still v (f v a)) : s.Still w (l.foldl f w) :=
  List.foldlRecOn l f (Still.refl s w) fun v still a ha =>
    still.trans (each v (rest.of_still still) a ha)

theorem still_integrate (dt : ℝ) : s.Still w (s.integrate dt w) := by
  have entities := still_foldl rest fun v hv id hid => still_stepEntity hv hid dt
  exact entities.trans
    (still_foldl (rest.of_still entities) fun v hv id hid => still_stepRagdoll hv hid dt)

theorem still_recenterAll (hitOther : Bool) : s.Still w (s.recenterAll hitOther w) := by
  have primary : s.Still w (s.ragdolls.primary.toList.foldl (s.recenter hitOther) w) :=
    still_foldl rest fun v hv id hid => still_recenter hv (List.mem_append_left _ hid) hitOther
  exact primary.trans (still_foldl (rest.of_still primary) fun v hv id hid =>
    still_recenter hv (Roster.mem_members_of_mem_others hid) false)

theorem enforceRagdolls_of_atRest : s.enforceRagdolls w = (0, w) := by
  have each (ids : List RagdollId) (members : ids ⊆ s.ragdolls.members) :
      (∀ x ∈ (enforceEach w.ragdolls ids w.shapes).1, x ≤ 0) ∧
        (enforceEach w.ragdolls ids w.shapes).2 = w.shapes := by
    induction ids with
    | nil => exact ⟨nofun, rfl⟩
    | cons id ids ih =>
      obtain ⟨member, members⟩ := List.cons_subset.1 members
      unfold enforceEach
      cases hr : w.ragdolls.body? id with
      | none => exact ih members
      | some r =>
        obtain ⟨small, same⟩ := Ragdoll.enforce_of_atRest (rest.ragdolls id member r hr)
        simp only [same, List.forall_mem_cons]
        exact ⟨⟨small, (ih members).1⟩, (ih members).2⟩
  obtain ⟨small, same⟩ := each s.ragdolls.members (List.Subset.refl _)
  rw [enforceRagdolls, same, Scalar.greatest_eq_zero small]

end Bodies

/-! ### Collisions in a step at rest -/

section Collisions

variable (rest : s.AtRest w)
include rest

theorem ownCollisions_of_atRest : s.ownCollisions w = [] := by
  unfold ownCollisions
  split
  · rfl
  next e he =>
    refine List.filterMap_eq_nil_iff.2 fun p hp => ?_
    obtain ⟨i, j, lt, hi, hj, allowed⟩ := Shapes.exists_of_mem_allowedPairs hp
    rw [Nat.zero_add, Nat.zero_add] at allowed
    exact Shapes.collision?_eq_none (rest.ownApart e he i j p.1 p.2 lt hi hj allowed)

theorem otherCollisions_of_atRest : s.otherCollisions w = [] := by
  unfold otherCollisions
  split
  · rfl
  next e he =>
    refine List.flatMap_eq_nil_iff.2 fun id hid => List.flatMap_eq_nil_iff.2 fun a ha =>
      List.filterMap_eq_nil_iff.2 fun b hb => ?_
    exact Shapes.collision?_eq_none (rest.othersApart e he id hid a ha b hb)

theorem detect_of_atRest : s.detect w = (false, { s with collisions := s.collisions.clear }) := by
  simp only [detect, ownCollisions_of_atRest rest, otherCollisions_of_atRest rest,
    CollisionBuffer.offerAll]

end Collisions

/-! ### Steps -/

section Steps

variable (rest : s.AtRest w)
include rest

theorem enforceContacts_of_atRest : s.enforceContacts w = (0, s, w) := by
  have enforced : s.contacts.enforce w.shapes = (0, s.contacts, w.shapes) := by
    rw [rest.noContacts]
    rfl
  rw [enforceContacts, enforced]

theorem rubContacts_of_atRest : s.rubContacts w = (s, w) := by
  have rubbed : s.contacts.rub w.shapes = (s.contacts, w.shapes) := by
    rw [rest.noContacts]
    rfl
  rw [rubContacts, rubbed]

/-- Before the first pass of a step at rest everything advances, and nothing moves. -/
theorem begin_of_atRest (dt : ℝ) :
    s.begin dt w = ({ s with frame := s.frame + 1, clock := s.clock.next }, s.integrate dt w) := by
  have advanced : s.AtRest (s.integrate dt w) := rest.of_still (still_integrate rest dt)
  have started : AtRest { s with frame := s.frame + 1, clock := s.clock.next }
      (integrate { s with frame := s.frame + 1, clock := s.clock.next } dt w) :=
    advanced.congr rfl rfl rfl rfl
  rw [begin]
  simp only [enforceContacts_of_atRest started, enforceRagdolls_of_atRest started]
  rfl

/-- A pass at rest finds nothing, moves nothing and reads the clock. -/
theorem pass_of_atRest :
    s.pass w =
      { sim := { s with collisions := s.collisions.clear, clock := s.clock.next }
        world := w
        passes := 1
        error := 0
        hitOther := false
        time := s.clock.now } := by
  have cleared : AtRest { s with collisions := s.collisions.clear } w := rest.congr rfl rfl rfl rfl
  have noted : noteContacts { s with collisions := s.collisions.clear } w
      = { s with collisions := s.collisions.clear } := rfl
  have resolved : resolve { s with collisions := s.collisions.clear } w = w := rfl
  unfold pass
  simp only [detect_of_atRest rest, noted, resolved, enforceRagdolls_of_atRest cleared,
    rubContacts_of_atRest cleared]

theorem relax_of_atRest (minError : ℝ) (expiry : UInt64) (more : Nat) :
    relax minError expiry more s w = s.pass w := by
  cases more with
  | zero => rfl
  | succ more =>
    have finished : (s.pass w).unfinished minError expiry = false := by
      rw [pass_of_atRest rest]
      rfl
    simp only [relax, finished, Bool.false_eq_true, ↓reduceIte]

/-- **A step at rest** reports that nothing happened.  The simulation counts the frame, reads the
clock twice and forgets the collisions that it found before. -/
theorem step_of_atRest (order : StepOrder ℝ) :
    s.step w order =
      ({ frame := s.frame + 1
         passes := 1
         error := 0
         collisions := 0
         hitOther := false
         elapsed := timeSince s.clock.now s.clock.next.now },
        { s with
          frame := s.frame + 1
          clock := s.clock.next.next
          collisions := s.collisions.clear },
        s.recenterAll false (s.integrate order.dt w)) := by
  have advanced : s.AtRest (s.integrate order.dt w) := rest.of_still (still_integrate rest order.dt)
  have started : AtRest { s with frame := s.frame + 1, clock := s.clock.next }
      (s.integrate order.dt w) := advanced.congr rfl rfl rfl rfl
  have forgotten : s.contacts.keep (fun c => s.frame + 1 - c.frame ≤ s.config.contactLifetime)
      = s.contacts := by
    rw [rest.noContacts]
    rfl
  simp only [step, begin_of_atRest rest, relax_of_atRest started, pass_of_atRest started, forgetOld,
    forgotten]
  rfl

theorem still_step (order : StepOrder ℝ) : s.Still w (s.step w order).2.2 := by
  have advanced := still_integrate rest order.dt
  rw [step_of_atRest rest]
  exact advanced.trans (still_recenterAll (rest.of_still advanced) false)

theorem AtRest.step (order : StepOrder ℝ) : (s.step w order).2.1.AtRest (s.step w order).2.2 := by
  have after := rest.of_still (still_step rest order)
  rw [step_of_atRest rest] at after ⊢
  exact after.congr rfl rfl rfl rfl

end Steps

end Simulation

/-! ### Runs -/

def Entity.velocity? {K : Type} : Entity K → Option (Vec3 K)
  | rigid b => some b.velocity
  | scenery _ => none

def Ragdoll.particles {K : Type} : Ragdoll K → List (Particle K)
  | jointed d => d.particles
  | puppet _ => []

namespace Simulation

variable {s : Simulation ℝ} {w w' : World ℝ}

theorem Still.velocity? (h : s.Still w w') (id : EntityId) :
    (w'.entities.body? id).map Entity.velocity? = (w.entities.body? id).map Entity.velocity? := by
  have kept (e e' : Entity ℝ) (calmed : e.Calmed e') : e'.velocity? = e.velocity? := by
    rcases calmed with rfl | rfl
    · rfl
    · cases e <;> rfl
  have same := h.entities.map_find? (v := fun slot => slot.body.velocity?)
    (fun _ _ slots => kept _ _ slots.body) id
  simpa only [Slots.body?, Option.map_map, Function.comp_def] using same

theorem Still.particles (h : s.Still w w') (id : RagdollId) :
    (w'.ragdolls.body? id).map Ragdoll.particles = (w.ragdolls.body? id).map Ragdoll.particles := by
  have kept (r r' : Ragdoll ℝ) (framed : r.Framed s.origin r') : r'.particles = r.particles := by
    rcases framed with rfl | rfl
    · rfl
    · cases r <;> rfl
  have same := h.ragdolls.map_find? (v := fun slot => slot.body.particles)
    (fun _ _ slots => kept _ _ slots.body) id
  simpa only [Slots.body?, Option.map_map, Function.comp_def] using same

/-- **A world at rest stays at rest**, however often it is stepped.  Every step reports one pass
without error and without collision; no contact appears, and no shape, no velocity and no past of a
particle changes. -/
theorem run_of_atRest (s : Simulation ℝ) (w : World ℝ) (orders : List (StepOrder ℝ))
    (rest : s.AtRest w) :
    (s.run w orders).1.length = orders.length ∧
    (∀ report ∈ (s.run w orders).1, report.passes = 1 ∧ report.collisions = 0 ∧ report.error = 0 ∧
      report.hitOther = false) ∧
    (s.run w orders).2.1.contacts = .empty ∧
    (s.run w orders).2.2.shapes = w.shapes ∧
    (∀ id, ((s.run w orders).2.2.entities.body? id).map Entity.velocity?
      = (w.entities.body? id).map Entity.velocity?) ∧
    (∀ id, ((s.run w orders).2.2.ragdolls.body? id).map Ragdoll.particles
      = (w.ragdolls.body? id).map Ragdoll.particles) := by
  induction orders generalizing s w with
  | nil => exact ⟨rfl, nofun, rest.noContacts, rfl, fun _ => rfl, fun _ => rfl⟩
  | cons order orders ih =>
    have still := still_step rest order
    obtain ⟨length, reports, contacts, shapes, velocities, particles⟩ :=
      ih (s.step w order).2.1 (s.step w order).2.2 (rest.step order)
    have first : (s.step w order).1.passes = 1 ∧ (s.step w order).1.collisions = 0 ∧
        (s.step w order).1.error = 0 ∧ (s.step w order).1.hitOther = false := by
      rw [step_of_atRest rest]
      exact ⟨rfl, rfl, rfl, rfl⟩
    exact ⟨congrArg (· + 1) length, List.forall_mem_cons.2 ⟨first, reports⟩, contacts,
      shapes.trans still.shapes, fun id => (velocities id).trans (still.velocity? id),
      fun id => (particles id).trans (still.particles id)⟩

/-! A ball that could be pushed, a wall out of its reach, and a ragdoll of two balls that hangs from
a pin. -/

noncomputable def ballAt (p : Vec3 ℝ) : Shape ℝ := { Shape.ofForm (.sphere 1) 1 with position := p }

/-- Two balls two apart, the first one pinned and held where it is. -/
noncomputable def pendulum : JointedDoll ℝ where
  particles := [⟨⟨2⟩, ⟨0, 5, 0⟩⟩, ⟨⟨3⟩, ⟨0, 3, 0⟩⟩]
  joints := [.pin ⟨2⟩ ⟨0, 5, 0⟩, .rod ⟨2⟩ ⟨3⟩ 2]
  rootIndex := 0
  target := ⟨0, 5, 0⟩
  frame := 0
  movement := 0
  massScale := 1
  gravity := 0
  damping := 1

noncomputable def chamber : World ℝ where
  shapes := ⟨#[ballAt ⟨0, 0, 0⟩, ballAt ⟨3, 0, 0⟩, ballAt ⟨0, 5, 0⟩, ballAt ⟨0, 3, 0⟩]⟩
  entities := ⟨#[⟨.rigid (.ofMass 1 [⟨0⟩]), some ⟨1⟩⟩, ⟨.rigid (.immovable [⟨1⟩]), some ⟨1⟩⟩]⟩
  ragdolls := ⟨#[⟨.jointed pendulum, some ⟨1⟩⟩]⟩

noncomputable def watch : Simulation ℝ :=
  { fresh ⟨1⟩ .standard (.still 0) with
    entities := ⟨some ⟨0⟩, [⟨1⟩]⟩
    ragdolls := ⟨some ⟨0⟩, []⟩ }

theorem position?_pin : chamber.shapes.position? ⟨2⟩ = some ⟨0, 5, 0⟩ := rfl

theorem position?_bob : chamber.shapes.position? ⟨3⟩ = some ⟨0, 3, 0⟩ := rfl

theorem distance_pin_bob : Vec3.distance (⟨0, 5, 0⟩ : Vec3 ℝ) ⟨0, 3, 0⟩ = 2 := by
  have square : Vec3.lengthSq ((⟨0, 5, 0⟩ : Vec3 ℝ) - ⟨0, 3, 0⟩) = 2 ^ 2 := by
    norm_num [Vec3.lengthSq, Vec3.dot, Vec3.sub_def]
  rw [Vec3.distance, Vec3.length, square, Scalar.sqrt_real]
  exact Real.sqrt_sq zero_le_two

theorem pendulum_atRest : pendulum.AtRest 0 chamber.shapes where
  weightless := rfl
  still := by
    intro p hp q hq
    rcases List.mem_pair.1 hp with rfl | rfl
    · exact Option.some.inj (position?_pin.symm.trans hq)
    · exact Option.some.inj (position?_bob.symm.trans hq)
  held := by
    intro j hj
    rcases List.mem_pair.1 hj with rfl | rfl
    · exact fun p hp => (Option.some.inj (position?_pin.symm.trans hp)).symm
    · intro p q hp hq
      obtain rfl := Option.some.inj (position?_pin.symm.trans hp)
      obtain rfl := Option.some.inj (position?_bob.symm.trans hq)
      rw [distance_pin_bob]
      norm_num [Joint.slack]
  rooted := by
    intro p hp
    obtain rfl := Option.some.inj (position?_pin.symm.trans hp)
    exact (sub_zero _).symm

theorem find?_ball : chamber.shapes.find? ⟨0⟩ = some (ballAt ⟨0, 0, 0⟩) := rfl

theorem find?_wall : chamber.shapes.find? ⟨1⟩ = some (ballAt ⟨3, 0, 0⟩) := rfl

theorem overlap?_ball_wall : (ballAt ⟨0, 0, 0⟩).overlap? (ballAt ⟨3, 0, 0⟩).toSolid = none := by
  have apart : ((1 : ℝ) + 1) * (1 + 1) ≤ Vec3.lengthSq ((⟨3, 0, 0⟩ : Vec3 ℝ) - ⟨0, 0, 0⟩) := by
    norm_num [Vec3.lengthSq, Vec3.dot, Vec3.sub_def]
  exact if_pos apart

theorem chamber_atRest : watch.AtRest chamber where
  noContacts := rfl
  ownApart := by
    intro e he i j a b lt ha hb _
    obtain rfl := Option.some.inj he
    have single : ([⟨0⟩] : List ShapeId)[j]? = none :=
      List.getElem?_eq_none (Nat.succ_le_of_lt (Nat.lt_of_le_of_lt i.zero_le lt))
    exact absurd (single.symm.trans hb) nofun
  othersApart := by
    intro e he id hid a ha b hb
    obtain rfl := Option.some.inj he
    obtain rfl := List.mem_singleton.1 hid
    obtain rfl := List.mem_singleton.1 ha
    obtain rfl := List.mem_singleton.1 hb
    rintro ⟨-, s, t, hs, ht, overlaps⟩
    obtain rfl := Option.some.inj (find?_ball.symm.trans hs)
    obtain rfl := Option.some.inj (find?_wall.symm.trans ht)
    rw [overlap?_ball_wall] at overlaps
    exact nomatch overlaps
  entities := by
    intro id hid e he
    obtain rfl := List.mem_singleton.1 hid
    obtain rfl := Option.some.inj he
    exact .inr ⟨rfl, rfl⟩
  ragdolls := by
    intro id hid r hr
    obtain rfl := List.mem_singleton.1 hid
    obtain rfl := Option.some.inj hr
    exact pendulum_atRest

/-- Two steps of different length leave the chamber as it was. -/
theorem run_of_atRest_of_chamber :
    watch.AtRest chamber ∧
    (watch.run chamber [⟨1, 0, 8, 1000⟩, ⟨2, 0, 8, 1000⟩]).1.length = 2 ∧
    (watch.run chamber [⟨1, 0, 8, 1000⟩, ⟨2, 0, 8, 1000⟩]).2.2.shapes = chamber.shapes := by
  obtain ⟨length, -, -, shapes, -⟩ :=
    run_of_atRest watch chamber [⟨1, 0, 8, 1000⟩, ⟨2, 0, 8, 1000⟩] chamber_atRest
  exact ⟨chamber_atRest, length, shapes⟩

end Simulation

end RagdollDynamics
