import RagdollDynamics.Proofs.Frame.Footprint

/-!
# The frame of a step

Every phase of a step is confined to the footprint of the simulation, hence every pass, however
many passes follow each other, and the step itself (`Simulation.confined_step`).  So a step leaves
alone whatever is outside the footprint, keeps what every object is made of, and leaves no
correction waiting (`Simulation.step_frame`).
-/

namespace RagdollDynamics

variable {K : Type} [Scalar K]

/-- What passes come to, apart from the world. -/
def Relaxation.gist (r : Relaxation K) : Relaxation K := { r with world := .empty }

def Relaxation.report (r : Relaxation K) (start : UInt64) : StepReport K where
  frame := r.sim.frame
  passes := r.passes
  error := r.error
  collisions := r.sim.collisions.size
  hitOther := r.hitOther
  elapsed := timeSince start r.time

/-- The shapes of a ragdoll and those that its joints name; none if there is no such ragdoll. -/
def World.ragdollReach (w : World K) (id : RagdollId) : List ShapeId :=
  ((w.ragdolls.body? id).map Ragdoll.reach).getD []

namespace Simulation

/-- The members of a simulation are those of a footprint, and its contacts join shapes of it. -/
structure Inside (F : Footprint) (s : Simulation K) : Prop where
  entities : s.entities = F.entities
  ragdolls : s.ragdolls = F.ragdolls
  contacts : s.contacts.On F.shapes

variable {F : Footprint} {s s' : Simulation K} {w w' : World K}

omit [Scalar K] in
theorem Inside.alike (hs : s.Inside F) (h : s.Alike s') (hcontacts : s'.contacts.On F.shapes) :
    s'.Inside F :=
  ⟨h.entities.trans hs.entities, h.ragdolls.trans hs.ragdolls, hcontacts⟩

omit [Scalar K] in
/-- The contacts of a simulation may be put in another order between any two phases. -/
theorem Inside.reorder {t : ContactTable K} (hs : s.Inside F)
    (order : s.contacts.entries.Perm t.entries) : Inside F { s with contacts := t } where
  entities := hs.entities
  ragdolls := hs.ragdolls
  contacts c hc := hs.contacts c ((order.map Prod.snd).mem_iff.2 hc)

/-! ### The phases before the first pass -/

theorem confined_integrate (hs : s.Inside F) (dt : K) :
    Confined F.region fun w => ((), s.integrate dt w) := by
  have hentities : Confined F.region fun w : World K => ((), s.entities.others.foldl
      (fun w id => w.actEntity id fun e shapes => e.step dt shapes) w) :=
    .foldl fun id hid => F.confined_actEntity (hs.entities ▸ hid)
      (fun e he => Entity.confined_step he dt) fun e shapes => Entity.shapes_step e dt shapes
  have hragdolls : Confined F.region fun w : World K => ((), s.ragdolls.members.foldl
      (fun w id => w.actRagdoll id fun r shapes => r.step dt shapes) w) :=
    .foldl fun id hid => F.confined_actRagdoll (hs.ragdolls ▸ hid)
      (fun r hr => Ragdoll.confined_step hr dt) fun r shapes => r.kept_step dt shapes
  exact hentities.bind (g := fun _ w => ((), s.ragdolls.members.foldl
    (fun w id => w.actRagdoll id fun r shapes => r.step dt shapes) w)) fun _ _ => hragdolls

theorem confined_enforceContacts (hs : s.Inside F) : Confined F.region fun w =>
    (((s.enforceContacts w).1, (s.enforceContacts w).2.1), (s.enforceContacts w).2.2) :=
  (F.confined_onShapes (ContactTable.confined_enforce hs.contacts)).map fun all =>
    (all.1, ({ s with contacts := all.2 } : Simulation K))

theorem confined_enforceEach {slots : Slots .ragdoll (Ragdoll K)} {shapes : List ShapeId} :
    ∀ {ids : List RagdollId}, (∀ id ∈ ids, ∀ r, slots.body? id = some r → r.reach ⊆ shapes) →
      Confined (Shapes.region shapes) (enforceEach slots ids)
  | [], _ => .pure []
  | id :: rest, h => by
    have hrest := confined_enforceEach fun id' hid' => h id' (List.mem_cons_of_mem id hid')
    cases hr : slots.body? id with
    | none =>
      have hskip : enforceEach slots (id :: rest) = enforceEach slots rest := by
        funext shapes
        rw [enforceEach, hr]
      exact hskip ▸ hrest
    | some r =>
      have hstep : enforceEach slots (id :: rest) = fun shapes =>
          ((r.enforce shapes).1 :: (enforceEach slots rest (r.enforce shapes).2).1,
            (enforceEach slots rest (r.enforce shapes).2).2) := by
        funext shapes
        rw [enforceEach, hr]
      rw [hstep]
      exact (Ragdoll.confined_enforce (h id List.mem_cons_self r hr)).bind
        (g := fun e shapes => (e :: (enforceEach slots rest shapes).1,
          (enforceEach slots rest shapes).2)) fun _ _ => hrest.map _

theorem enforceEach_congr {slots slots' : Slots .ragdoll (Ragdoll K)} : ∀ {ids : List RagdollId},
    (∀ id ∈ ids, slots'.body? id = slots.body? id) → enforceEach slots' ids = enforceEach slots ids
  | [], _ => rfl
  | id :: rest, h => by
    funext shapes
    rw [enforceEach, enforceEach, h id List.mem_cons_self,
      enforceEach_congr fun id' hid' => h id' (List.mem_cons_of_mem id hid')]

theorem confined_enforceRagdolls (hs : s.Inside F) : Confined F.region s.enforceRagdolls := by
  refine .of_cases fun w w' hw h => ?_
  have heach : Confined (Shapes.region F.shapes) (enforceEach w.ragdolls F.ragdolls.members) :=
    confined_enforceEach hw.ragdoll
  have hbodies : ∀ id ∈ F.ragdolls.members, w'.ragdolls.body? id = w.ragdolls.body? id :=
    fun id hid => Slots.body?_congr (h.ragdolls id hid)
  obtain ⟨hanswer, hleft⟩ := heach.agree w.shapes w'.shapes trivial h.shapes
  simp only [enforceRagdolls, hs.ragdolls, enforceEach_congr hbodies, hanswer, true_and]
  exact ⟨⟨heach.changed w.shapes trivial, .refl _ _, .refl _ _⟩, hleft, h.entities, h.ragdolls⟩

/-! ### Detection -/

omit [Scalar K] in
theorem primary_mem_members {p : EntityId} (h : s.entities.primary = some p) :
    p ∈ s.entities.members := by
  rw [Roster.members, h]
  exact List.mem_cons_self

omit [Scalar K] in
theorem faces_mem (hs : s.Inside F) (hw : F.Covers w) {a b : ShapeId} (h : s.Faces w a b) :
    a ∈ F.shapes ∧ b ∈ F.shapes := by
  obtain ⟨p, hp, ha, hb⟩ := h
  have hlists : ∀ id ∈ s.entities.members, w.entityShapes id ⊆ F.shapes :=
    hs.entities ▸ hw.entity
  have hprimary := hlists p (primary_mem_members hp)
  rcases hb with hb | ⟨o, ho, hb⟩
  · exact ⟨hprimary ha, hprimary hb⟩
  · exact ⟨hprimary ha, hlists o (Roster.mem_members_of_mem_others ho) hb⟩

theorem detect_congr (hs : s.Inside F) (hw : F.Covers w) (h : F.Agree w w') :
    s.detect w' = s.detect w := by
  have hlists : ∀ id ∈ s.entities.members, w.entityShapes id ⊆ F.shapes ∧
      w'.entityShapes id = w.entityShapes id := fun id hid =>
    have hid := hs.entities ▸ hid
    ⟨hw.entity id hid, h.entityShapes hid⟩
  have hprimary : s.entities.primary.bind w'.entities.body? =
      s.entities.primary.bind w.entities.body? := by
    cases hp : s.entities.primary with
    | none => rfl
    | some p => exact Slots.body?_congr (h.entities p (hs.entities ▸ primary_mem_members hp))
  have hfound : s.ownCollisions w' = s.ownCollisions w ∧
      s.otherCollisions w' = s.otherCollisions w := by
    unfold ownCollisions otherCollisions
    rw [hprimary]
    cases he : s.entities.primary.bind w.entities.body? with
    | none => exact ⟨rfl, rfl⟩
    | some e =>
      obtain ⟨p, hp, hshapes⟩ := primary_body?_eq_some he
      have hmem : e.shapes ⊆ F.shapes := hshapes ▸ (hlists p (primary_mem_members hp)).1
      refine ⟨Shapes.collisionsWithin_congr h.shapes hmem _, List.flatMap_congr fun o ho => ?_⟩
      have hother := hlists o (Roster.mem_members_of_mem_others ho)
      rw [hother.2]
      exact Shapes.collisionsBetween_congr h.shapes hmem hother.1
  rw [detect, hfound.1, hfound.2, detect]

/-- What detection keeps names shapes of the footprint only. -/
theorem parties_detect (hs : s.Inside F) (hw : F.Covers w) :
    (s.detect w).2.collisions.toList.flatMap Collision.parties ⊆ F.shapes := by
  intro x hx
  obtain ⟨hit, hmem, hx⟩ := List.mem_flatMap.1 hx
  obtain ⟨b, hb, -, hfaces, -, -⟩ := faces_of_mem_detect hmem
  have hparties := faces_mem hs hw hfaces
  rw [Collision.parties, hb] at hx
  simp only [Option.toList_some, List.mem_cons, List.not_mem_nil, or_false] at hx
  rcases hx with rfl | rfl
  · exact hparties.1
  · exact hparties.2

theorem confined_note (hs : s.Inside F) : Confined F.region fun w =>
    (((s.detect w).1, (s.detect w).2.noteContacts w), w) := by
  refine .read fun w w' hw h => ?_
  have hnoted : s.contacts.noteAll s.frame s.config.contactAllowance w'.shapes
      (s.detect w).2.collisions.toList = s.contacts.noteAll s.frame s.config.contactAllowance
        w.shapes (s.detect w).2.collisions.toList :=
    ContactTable.noteAll_congr hs.contacts (parties_detect hs hw) h.shapes
  rw [detect_congr hs hw h]
  exact congrArg (fun t => ((s.detect w).1, { (s.detect w).2 with contacts := t })) hnoted.symm

theorem inside_note (hs : s.Inside F) (hw : F.Covers w) :
    ((s.detect w).2.noteContacts w).Inside F := by
  refine hs.alike ⟨rfl, rfl, rfl, rfl⟩ (ContactTable.Within.noteAll hs.contacts ?_)
  intro hit hmem b hb
  obtain ⟨b', hb', -, hfaces, -, -⟩ := faces_of_mem_detect hmem
  rw [hb] at hb'
  exact Option.some.inj hb' ▸ faces_mem hs hw hfaces

/-! ### Passes -/

theorem confined_resolve (hs : s.collisions.toList.flatMap Collision.parties ⊆ F.shapes) :
    Confined F.region fun w => ((), s.resolve w) :=
  F.confined_onShapes (Collision.confined_resolveAll hs)

theorem confined_rubContacts (hs : s.Inside F) : Confined F.region s.rubContacts :=
  (F.confined_onShapes (ContactTable.confined_rub hs.contacts)).map fun t =>
    { s with contacts := t }

theorem confined_respond (hs : s.Inside F)
    (hcollisions : s.collisions.toList.flatMap Collision.parties ⊆ F.shapes) :
    Confined F.region fun w => (((s.enforceRagdolls (s.resolve w)).1,
      (s.rubContacts (s.enforceRagdolls (s.resolve w)).2).1),
        (s.rubContacts (s.enforceRagdolls (s.resolve w)).2).2) :=
  (confined_resolve hcollisions).bind
    (g := fun _ w => (((s.enforceRagdolls w).1, (s.rubContacts (s.enforceRagdolls w).2).1),
      (s.rubContacts (s.enforceRagdolls w).2).2)) fun _ _ =>
    (confined_enforceRagdolls hs).bind
      (g := fun error w => ((error, (s.rubContacts w).1), (s.rubContacts w).2)) fun _ _ =>
      (confined_rubContacts hs).map _

/-- What a pass comes to, apart from the world, that leaves simulation `s`. -/
def passed (hitOther : Bool) (error : K) (s : Simulation K) : Relaxation K where
  sim := { s with clock := s.clock.next }
  world := .empty
  passes := 1
  error := error
  hitOther := hitOther
  time := s.clock.now

/-- **A pass is confined to the footprint.** -/
theorem confined_pass (hs : s.Inside F) :
    Confined F.region fun w => ((s.pass w).gist, (s.pass w).world) :=
  (confined_note hs).bind
    (g := fun (noted : Bool × Simulation K) w =>
      have enforced := noted.2.enforceRagdolls (noted.2.resolve w)
      have rubbed := noted.2.rubContacts enforced.2
      (passed noted.1 enforced.1 rubbed.1, rubbed.2))
    fun w hw => (confined_respond (inside_note hs hw) (parties_detect hs hw)).map fun answer =>
      passed (s.detect w).1 answer.1 answer.2

theorem inside_pass (hs : s.Inside F) (hw : F.Covers w) : (s.pass w).sim.Inside F :=
  hs.alike (s.alike_pass w).1 (within_pass hs.contacts fun _ _ h => faces_mem hs hw h)

theorem confined_relax (minError : K) (expiry : UInt64) : ∀ (more : Nat) {s : Simulation K},
    s.Inside F → Confined F.region fun w =>
      ((relax minError expiry more s w).gist, (relax minError expiry more s w).world)
  | 0, _, hs => confined_pass hs
  | more + 1, s, hs => by
    have hpass := confined_pass hs
    refine .of_cases fun w w' hw h => ?_
    have hrest := confined_relax minError expiry more (inside_pass hs hw)
    obtain ⟨hgist, hworld⟩ := hpass.agree w w' hw h
    have hsim : (s.pass w').sim = (s.pass w).sim := (congrArg Relaxation.sim hgist.symm :)
    have hopen : (s.pass w').unfinished minError expiry = (s.pass w).unfinished minError expiry :=
      (congrArg (fun r => r.unfinished minError expiry) hgist.symm :)
    have hfirst : F.Changed w (s.pass w).world := hpass.changed w hw
    have hclosed : F.Covers (s.pass w).world := hpass.closed hw
    simp only [relax, hopen, hsim]
    split
    next =>
      obtain ⟨hgists, hworlds⟩ := hrest.agree _ _ hclosed hworld
      exact ⟨F.region.changed_trans hfirst (hrest.changed _ hclosed),
        congrArg₂ Relaxation.followedBy hgist hgists, hworlds⟩
    next => exact ⟨hfirst, hgist, hworld⟩

theorem inside_relax (minError : K) (expiry : UInt64) : ∀ (more : Nat) {s : Simulation K}
    {w : World K}, s.Inside F → F.Covers w → (relax minError expiry more s w).sim.Inside F
  | 0, _, _, hs, hw => inside_pass hs hw
  | more + 1, s, w, hs, hw => by
    have hpass := inside_pass hs hw
    rw [relax]
    split
    · exact inside_relax minError expiry more hpass ((confined_pass hs).closed hw)
    · exact hpass

/-! ### The step -/

theorem inside_begin (hs : s.Inside F) (dt : K) (w : World K) : (s.begin dt w).1.Inside F :=
  hs.alike (s.alike_begin dt w).1 (hs.contacts.congr (s.outline_begin dt w))

theorem confined_begin (hs : s.Inside F) (dt : K) : Confined F.region (s.begin dt) := by
  have hnext : Inside F { s with frame := s.frame + 1, clock := s.clock.next } :=
    hs.alike ⟨rfl, rfl, rfl, rfl⟩ hs.contacts
  have hpush := (confined_integrate hnext dt).bind
    (g := fun _ w => (((enforceContacts _ w).1, (enforceContacts _ w).2.1),
      (enforceContacts _ w).2.2)) fun _ _ => confined_enforceContacts hnext
  exact hpush.bind (g := fun pushed w => (pushed.2, (pushed.2.enforceRagdolls w).2)) fun w _ =>
    (confined_enforceRagdolls (inside_begin hs dt w)).map fun _ => (s.begin dt w).1

/-- Before each pass of a step the world has changed within the footprint. -/
theorem changed_beforeStepPass (hs : s.Inside F) (hw : F.Covers w) (dt : K) (k : Nat) :
    F.Changed w (s.beforeStepPass w dt k).2 ∧ (s.beforeStepPass w dt k).1.Inside F := by
  induction k with
  | zero => exact ⟨(confined_begin hs dt).changed w hw, inside_begin hs dt w⟩
  | succ k ih =>
    obtain ⟨hchanged, hinside⟩ := ih
    have hcovers : F.Covers (s.beforeStepPass w dt k).2 := hw.of_changed hchanged
    exact ⟨F.region.changed_trans hchanged ((confined_pass hinside).changed _ hcovers),
      inside_pass hinside hcovers⟩

theorem confined_recenterAll (hs : s.Inside F) (hitOther : Bool) :
    Confined F.region fun w => ((), s.recenterAll hitOther w) := by
  have hone : ∀ recording, ∀ id ∈ s.ragdolls.members,
      Confined F.region fun w => ((), s.recenter recording w id) := fun recording id hid =>
    F.confined_actRagdoll (hs.ragdolls ▸ hid)
      (fun r hr => Ragdoll.confined_recenter hr s.origin recording)
      fun r shapes => r.kept_recenter s.origin recording shapes
  have hprimary := Confined.foldl (F := s.recenter hitOther) (l := s.ragdolls.primary.toList)
    fun id hid => hone hitOther id (List.mem_append_left _ hid)
  have hothers := Confined.foldl (F := s.recenter false) (l := s.ragdolls.others)
    fun id hid => hone false id (List.mem_append_right _ hid)
  exact hprimary.bind (g := fun _ w => ((), s.ragdolls.others.foldl (s.recenter false) w))
    fun _ _ => hothers

/-- **A step is confined to the footprint.** -/
theorem confined_step (hs : s.Inside F) (order : StepOrder K) : Confined F.region fun w =>
    (((s.step w order).1, (s.step w order).2.1), (s.step w order).2.2) := by
  refine (confined_begin hs order.dt).bind (g := fun s₁ w₁ =>
    have r := relax order.minError (addTime s.clock.now order.maxTime)
      (order.maxPasses.toNat - 1) s₁ w₁
    ((r.report s.clock.now, r.sim.forgetOld), r.sim.recenterAll r.hitOther r.world)) fun w _ => ?_
  have hbegun := inside_begin hs order.dt w
  have hrelax := confined_relax order.minError (addTime s.clock.now order.maxTime)
    (order.maxPasses.toNat - 1) hbegun
  refine hrelax.bind (g := fun r w =>
    ((r.report s.clock.now, r.sim.forgetOld), r.sim.recenterAll r.hitOther w)) fun w₁ hw₁ => ?_
  exact (confined_recenterAll (inside_relax _ _ _ hbegun hw₁) _).map fun _ => _

/-! ### The footprint of a simulation -/

/-- The shapes that members list, that joints of member ragdolls name, and that contacts join. -/
def reach (s : Simulation K) (w : World K) : List ShapeId :=
  s.entities.members.flatMap w.entityShapes ++ s.ragdolls.members.flatMap w.ragdollReach ++
    s.contacts.toList.flatMap Contact.shapes

omit [Scalar K] in
/-- Contacts reach the same shapes in whichever order they stand. -/
theorem reach_perm {t : ContactTable K} (order : s.contacts.entries.Perm t.entries) (w : World K) :
    (s.reach w).Perm (({ s with contacts := t } : Simulation K).reach w) :=
  ((order.map Prod.snd).flatMap_right Contact.shapes).append_left _

def footprint (s : Simulation K) (w : World K) : Footprint := ⟨s.reach w, s.entities, s.ragdolls⟩

omit [Scalar K] in
theorem covers_footprint (s : Simulation K) (w : World K) : (s.footprint w).Covers w where
  entity id hid x hx := List.mem_append_left _ (List.mem_append_left _
    (List.mem_flatMap.2 ⟨id, hid, hx⟩))
  ragdoll id hid r hr x hx := by
    have hreach : x ∈ w.ragdollReach id := by rwa [World.ragdollReach, hr]
    exact List.mem_append_left _ (List.mem_append_right _ (List.mem_flatMap.2 ⟨id, hid, hreach⟩))

omit [Scalar K] in
theorem inside_footprint (s : Simulation K) (w : World K) : s.Inside (s.footprint w) := by
  refine ⟨rfl, rfl, ContactTable.on_iff.2 fun c hc => ?_⟩
  have hcontact : ∀ x ∈ c.shapes, x ∈ s.reach w := fun x hx =>
    List.mem_append_right _ (List.mem_flatMap.2 ⟨c, hc, hx⟩)
  exact ⟨hcontact c.lower List.mem_cons_self,
    hcontact c.upper (List.mem_cons_of_mem _ List.mem_cons_self)⟩

theorem changed_step (s : Simulation K) (w : World K) (order : StepOrder K) :
    (s.footprint w).Changed w (s.step w order).2.2 :=
  (confined_step (s.inside_footprint w) order).changed w (s.covers_footprint w)

theorem origin_step (s : Simulation K) (w : World K) (order : StepOrder K) :
    (s.step w order).2.1.origin = s.origin := by
  have hpasses : ∀ n, (s.beforeStepPass w order.dt n).1.origin = s.origin := by
    intro n
    induction n with
    | zero => rfl
    | succ n ih => exact ih
  rw [sim_step]
  exact hpasses _

/-- **What a step leaves alone.**  Every shape keeps what it is made of and the entity that holds
it; no object comes or goes and no owner changes; the simulation keeps its number, its members, its
limits and its place; entities besides the others, ragdolls that are no members and shapes out of
reach stay exactly as they are; and if no correction waits before the step, none waits after it, nor
after any list of collisions is answered. -/
theorem step_frame (s : Simulation K) (w : World K) (order : StepOrder K) :
    ((s.step w order).2.2.shapes.toList.map Shape.build = w.shapes.toList.map Shape.build ∧
      (s.step w order).2.2.entities.toList.map Slot.owner = w.entities.toList.map Slot.owner ∧
      (s.step w order).2.2.ragdolls.toList.map Slot.owner = w.ragdolls.toList.map Slot.owner) ∧
    ((s.step w order).2.1.id = s.id ∧ (s.step w order).2.1.entities = s.entities ∧
      (s.step w order).2.1.ragdolls = s.ragdolls ∧ (s.step w order).2.1.config = s.config ∧
      (s.step w order).2.1.origin = s.origin) ∧
    ((∀ e ∉ s.entities.others, (s.step w order).2.2.entities.find? e = w.entities.find? e) ∧
      (∀ d ∉ s.ragdolls.members, (s.step w order).2.2.ragdolls.find? d = w.ragdolls.find? d) ∧
      ∀ x ∉ s.reach w, (s.step w order).2.2.shapes.find? x = w.shapes.find? x) ∧
    ((∀ x ∈ w.shapes.toList, x.Settled) →
      (∀ x ∈ (s.step w order).2.2.shapes.toList, x.Settled) ∧
      ∀ hits, ∀ x ∈ (Collision.resolveAll hits w.shapes).toList, x.Settled) := by
  have hchanged := s.changed_step w order
  have halike := (s.alike_step w order).1
  refine ⟨⟨?_, ?_, ?_⟩, ⟨halike.id, halike.entities, halike.ragdolls, halike.config,
    s.origin_step w order⟩, ⟨?_, ?_, ?_⟩, fun hsettled => ?_⟩
  · exact hchanged.shapes.map_toList fun _ _ h => h.build
  · exact hchanged.entities.map_toList fun _ _ h => h.owner
  · exact hchanged.ragdolls.map_toList fun _ _ h => h.owner
  · exact fun e he => hchanged.entities.find?_eq he
  · exact fun d hd => hchanged.ragdolls.find?_eq hd
  · exact fun x hx => hchanged.shapes.find?_eq hx
  · have hkept : ∀ x y : Shape K, x.Kept y → x.Settled → y.Settled := fun _ _ h => h.settled
    exact ⟨hchanged.shapes.forall_mem_toList hkept hsettled,
      fun hits =>
        (Collision.changedOn_resolveAll hits w.shapes).forall_mem_toList hkept hsettled⟩

/-- Three balls in one place.  Two of them are entities of a simulation, and the third one is
nobody's. -/
def huddle : World Float32 where
  shapes := ((Arena.empty.push (.ofForm (.sphere 1) 1)).push (.ofForm (.sphere 1) 1)).push
    (.ofForm (.sphere 1) 1)
  entities := ((Arena.empty.push ⟨.rigid (.ofMass 1 [⟨0⟩]), some ⟨1⟩⟩).push
    ⟨.rigid (.ofMass 1 [⟨1⟩]), some ⟨1⟩⟩).push ⟨.rigid (.ofMass 1 [⟨2⟩]), none⟩
  ragdolls := .empty

def ofHuddle : Simulation Float32 :=
  { fresh ⟨1⟩ .standard (.still 0) with entities := ⟨some ⟨0⟩, [⟨1⟩]⟩ }

/-- The two balls are corrected and no correction is left; the third ball is not touched. -/
theorem step_frame_of_huddle : ∃ order : StepOrder Float32,
    (ofHuddle.step huddle order).1.collisions = 1 ∧
    ((ofHuddle.step huddle order).2.2.shapes.position? ⟨1⟩ == huddle.shapes.position? ⟨1⟩) = false ∧
    (∀ x ∈ huddle.shapes.toList, x.Settled) ∧
    (∀ x ∈ (ofHuddle.step huddle order).2.2.shapes.toList, x.Settled) ∧
    (ofHuddle.step huddle order).2.2.entities.find? ⟨0⟩ = huddle.entities.find? ⟨0⟩ ∧
    (ofHuddle.step huddle order).2.2.shapes.find? ⟨2⟩ = huddle.shapes.find? ⟨2⟩ := by
  have hsettled : ∀ x ∈ huddle.shapes.toList, x.Settled := by
    have hballs : huddle.shapes.toList = List.replicate 3 (.ofForm (.sphere 1) 1) := rfl
    intro x hx
    rw [hballs] at hx
    obtain rfl := List.eq_of_mem_replicate hx
    exact ⟨rfl, rfl⟩
  have hprimary : (⟨0⟩ : EntityId) ∉ ofHuddle.entities.others := by decide
  have hbystander : (⟨2⟩ : ShapeId) ∉ ofHuddle.reach huddle := by decide +kernel
  obtain ⟨-, -, ⟨hentities, -, hshapes⟩, hwaiting⟩ :=
    step_frame ofHuddle huddle ⟨0.01, 0, 1, 0⟩
  exact ⟨⟨0.01, 0, 1, 0⟩, by decide +kernel, by decide +kernel, hsettled, (hwaiting hsettled).1,
    hentities ⟨0⟩ hprimary, hshapes ⟨2⟩ hbystander⟩

end Simulation

end RagdollDynamics
