import RagdollDynamics.Proofs.Body.Roots
import RagdollDynamics.Proofs.Frame.Step

/-!
# Roots after a step

Whatever a step does to ragdolls, it leaves alone how they are held: which shapes they list, which
of them is the root, and where its target is.  At its end it brings one root after the other to its
target; since ragdolls share no shapes, none of them drags along a root that is there already
(`Simulation.roots_at_targets`).
-/

namespace RagdollDynamics

namespace Slots

variable {k : HandleKind} {α : Type} {slots : Slots k α} {id id' : Handle k} {body : α}

theorem body?_replace_self (h : slots.body? id = some body) (body' : α) :
    (slots.replace id body').body? id = some body' := by
  obtain ⟨slot, hslot, -⟩ := Option.map_eq_some_iff.1 h
  rw [body?, replace, Arena.find?_modify_self, hslot]
  rfl

theorem body?_replace_of_ne (hne : id ≠ id') (body' : α) :
    (slots.replace id body').body? id' = slots.body? id' := by
  rw [body?, replace, Arena.find?_modify_of_ne _ hne, body?]

end Slots

/-! ### How ragdolls are held -/

/-- The shapes of a ragdoll, the position of the root among them, and the target of the root. -/
@[ext]
structure Hold where
  shapes : List ShapeId
  root : Nat
  target : Vec3 ℝ

def JointedDoll.hold (d : JointedDoll ℝ) : Hold := ⟨d.shapes, d.rootIndex, d.target⟩

/-- How a ragdoll is held; a puppet is not. -/
def Ragdoll.hold? : Ragdoll ℝ → Option Hold
  | jointed d => some d.hold
  | puppet _ => none

def World.hold? (w : World ℝ) (id : RagdollId) : Option Hold :=
  (w.ragdolls.body? id).bind Ragdoll.hold?

namespace JointedDoll

variable {d d₀ : JointedDoll ℝ} {shapes shapes' : Shapes ℝ}

theorem hold_shift (d : JointedDoll ℝ) (v : Vec3 ℝ) (shapes : Shapes ℝ) :
    (d.shift v shapes).1.hold = d.hold := Hold.ext List.map_map rfl rfl

theorem hold_remember (d : JointedDoll ℝ) (v : Vec3 ℝ) : (d.remember v).hold = d.hold := by
  unfold remember
  split <;> rfl

theorem hold_recenter (d : JointedDoll ℝ) (recording : Bool) (shapes : Shapes ℝ) :
    (d.recenter recording shapes).1.hold = d.hold := by
  unfold recenter
  split
  · rfl
  split
  · rfl
  next v _ _ =>
    cases recording with
    | false => exact hold_shift d v shapes
    | true => exact (hold_remember _ v).trans (hold_shift d v shapes)

theorem size_recenter (d : JointedDoll ℝ) (recording : Bool) (shapes : Shapes ℝ) :
    (d.recenter recording shapes).2.size = shapes.size := by
  unfold recenter
  split
  · rfl
  split
  · rfl
  · exact Arena.size_modifyAll shapes d.shapes _

theorem shapes_of_hold (h : d.hold = d₀.hold) : d.shapes = d₀.shapes := congrArg Hold.shapes h

theorem rootIndex_of_hold (h : d.hold = d₀.hold) : d.rootIndex = d₀.rootIndex :=
  congrArg Hold.root h

theorem target_of_hold (h : d.hold = d₀.hold) : d.target = d₀.target := congrArg Hold.target h

theorem root?_of_hold (h : d.hold = d₀.hold) : d.root? = d₀.root? := by
  rw [root?_eq_getElem?, root?_eq_getElem?, shapes_of_hold h, rootIndex_of_hold h]

theorem Whole.congr (h : d₀.Whole shapes) (hhold : d.hold = d₀.hold)
    (hsize : shapes'.size = shapes.size) : d.Whole shapes' := by
  have hshapes := shapes_of_hold hhold
  have hlength : d.particles.length = d₀.particles.length := by
    have hmap := congrArg List.length hshapes
    rwa [JointedDoll.shapes, JointedDoll.shapes, List.length_map, List.length_map] at hmap
  refine ⟨hshapes ▸ h.distinct, fun x hx => ?_, ?_⟩
  · have hfound := h.present x (hshapes ▸ hx)
    rw [← Option.ne_none_iff_isSome, ne_eq, Arena.find?_eq_none_iff] at hfound ⊢
    rwa [hsize]
  · rw [rootIndex_of_hold hhold, hlength]
    exact h.rooted

end JointedDoll

namespace Ragdoll

theorem hold?_step (r : Ragdoll ℝ) (dt : ℝ) (shapes : Shapes ℝ) :
    (r.step dt shapes).1.hold? = r.hold? := by
  cases r with
  | jointed d =>
    exact congrArg some (Hold.ext (Particle.map_shape_stepAll _ _ _ d.particles shapes) rfl rfl)
  | puppet d => rfl

theorem hold?_recenter (r : Ragdoll ℝ) (frame : Vec3 ℝ) (recording : Bool) (shapes : Shapes ℝ) :
    ((r.inFrame frame).recenter recording shapes).1.hold? = r.hold? := by
  cases r with
  | jointed d =>
    exact congrArg some (JointedDoll.hold_recenter { d with frame := frame } recording shapes)
  | puppet d => rfl

end Ragdoll

namespace World

variable {v w : World ℝ} {id id' : RagdollId} {r : Ragdoll ℝ}

theorem actRagdoll_of_none {f : Ragdoll ℝ → Shapes ℝ → Ragdoll ℝ × Shapes ℝ}
    (h : w.ragdolls.body? id = none) : w.actRagdoll id f = w := by
  rw [actRagdoll, h]

theorem shapes_actRagdoll (f : Ragdoll ℝ → Shapes ℝ → Ragdoll ℝ × Shapes ℝ)
    (h : w.ragdolls.body? id = some r) :
    (w.actRagdoll id f).shapes = (f r w.shapes).2 := by
  rw [actRagdoll, h]

theorem body?_actRagdoll (f : Ragdoll ℝ → Shapes ℝ → Ragdoll ℝ × Shapes ℝ)
    (h : w.ragdolls.body? id = some r) :
    (w.actRagdoll id f).ragdolls.body? id = some (f r w.shapes).1 := by
  rw [actRagdoll, h]
  exact Slots.body?_replace_self h _

theorem body?_actRagdoll_of_ne (f : Ragdoll ℝ → Shapes ℝ → Ragdoll ℝ × Shapes ℝ)
    (hne : id ≠ id') : (w.actRagdoll id f).ragdolls.body? id' = w.ragdolls.body? id' := by
  unfold actRagdoll
  split
  · rfl
  · exact Slots.body?_replace_of_ne hne _

theorem hold?_actRagdoll (w : World ℝ) (id : RagdollId)
    {f : Ragdoll ℝ → Shapes ℝ → Ragdoll ℝ × Shapes ℝ}
    (hf : ∀ r shapes, (f r shapes).1.hold? = r.hold?) : (w.actRagdoll id f).hold? = w.hold? := by
  funext id'
  by_cases hsame : id = id'
  · subst hsame
    cases hbody : w.ragdolls.body? id with
    | none => rw [actRagdoll_of_none hbody]
    | some r =>
      rw [hold?, body?_actRagdoll f hbody, hold?, hbody, Option.bind_some, hf, Option.bind_some]
  · rw [hold?, body?_actRagdoll_of_ne f hsame, hold?]

theorem hold?_actEntity (w : World ℝ) (id : EntityId)
    (f : Entity ℝ → Shapes ℝ → Entity ℝ × Shapes ℝ) : (w.actEntity id f).hold? = w.hold? := by
  unfold actEntity
  cases w.entities.body? id <;> rfl

theorem hold?_foldl {α : Type} {f : World ℝ → α → World ℝ} (hf : ∀ w a, (f w a).hold? = w.hold?)
    (l : List α) (w : World ℝ) : (l.foldl f w).hold? = w.hold? := by
  induction l generalizing w with
  | nil => rfl
  | cons a l ih => exact (ih (f w a)).trans (hf w a)

/-- A jointed ragdoll was a jointed ragdoll that was held alike. -/
theorem exists_jointed_of_hold? (h : v.hold? = w.hold?) {d : JointedDoll ℝ}
    (hd : v.ragdolls.body? id = some (.jointed d)) :
    ∃ d₀, w.ragdolls.body? id = some (.jointed d₀) ∧ d.hold = d₀.hold := by
  have hheld : w.hold? id = some d.hold := by
    rw [← h, World.hold?, hd]
    rfl
  obtain ⟨r, hr, hhold⟩ := Option.bind_eq_some_iff.1 hheld
  cases r with
  | jointed d₀ => exact ⟨d₀, hr, (Option.some.inj hhold).symm⟩
  | puppet d₀ => exact absurd hhold nofun

end World

namespace Simulation

variable {s s' : Simulation ℝ} {v w : World ℝ} {id id' : RagdollId}

/-! ### Up to the end of the passes -/

theorem hold?_integrate (s : Simulation ℝ) (dt : ℝ) (w : World ℝ) :
    (s.integrate dt w).hold? = w.hold? :=
  (World.hold?_foldl (fun w id => World.hold?_actRagdoll w id fun r shapes =>
    r.hold?_step dt shapes) s.ragdolls.members _).trans
    (World.hold?_foldl (fun w id => World.hold?_actEntity w id _) s.entities.others w)

theorem ragdolls_relax (minError : ℝ) (expiry : UInt64) (more : Nat) (s : Simulation ℝ)
    (w : World ℝ) : (relax minError expiry more s w).world.ragdolls = w.ragdolls := by
  induction more generalizing s w with
  | zero => rfl
  | succ more ih =>
    rw [relax]
    split
    · exact ih _ _
    · rfl

/-- What a step brings about before it recentres the ragdolls. -/
noncomputable def relaxed (s : Simulation ℝ) (w : World ℝ) (order : StepOrder ℝ) : Relaxation ℝ :=
  relax order.minError (addTime s.clock.now order.maxTime) (order.maxPasses.toNat - 1)
    (s.begin order.dt w).1 (s.begin order.dt w).2

theorem world_step (s : Simulation ℝ) (w : World ℝ) (order : StepOrder ℝ) :
    (s.step w order).2.2 = (s.relaxed w order).sim.recenterAll (s.relaxed w order).hitOther
      (s.relaxed w order).world := rfl

theorem hold?_relaxed (s : Simulation ℝ) (w : World ℝ) (order : StepOrder ℝ) :
    (s.relaxed w order).world.hold? = w.hold? := by
  have hragdolls : (s.relaxed w order).world.ragdolls = (s.integrate order.dt w).ragdolls :=
    ragdolls_relax _ _ _ _ _
  funext id
  rw [World.hold?, hragdolls]
  exact congrFun (hold?_integrate s order.dt w) id

theorem size_relaxed (s : Simulation ℝ) (w : World ℝ) (order : StepOrder ℝ) :
    (s.relaxed w order).world.shapes.size = w.shapes.size := by
  have hinside := s.inside_footprint w
  have hbegun := (confined_begin hinside order.dt).changed w (s.covers_footprint w)
  have hrelaxed := (confined_relax order.minError (addTime s.clock.now order.maxTime)
    (order.maxPasses.toNat - 1) (inside_begin hinside order.dt w)).changed _
      ((s.covers_footprint w).of_changed hbegun)
  exact hrelaxed.shapes.size_eq.trans hbegun.shapes.size_eq

theorem ragdolls_sim_relaxed (s : Simulation ℝ) (w : World ℝ) (order : StepOrder ℝ) :
    (s.relaxed w order).sim.ragdolls = s.ragdolls := (s.alike_step w order).1.ragdolls

theorem origin_relaxed (s : Simulation ℝ) (w : World ℝ) (order : StepOrder ℝ) :
    (s.relaxed w order).sim.origin = s.origin := s.origin_step w order

/-! ### Recentring all ragdolls -/

/-- The jointed members of a simulation are whole, and no two of them share a shape. -/
structure Moored (s : Simulation ℝ) (w : World ℝ) : Prop where
  whole : ∀ id ∈ s.ragdolls.members, ∀ d, w.ragdolls.body? id = some (.jointed d) →
    d.Whole w.shapes
  apart : ∀ id ∈ s.ragdolls.members, ∀ id' ∈ s.ragdolls.members, id ≠ id' → ∀ d d',
    w.ragdolls.body? id = some (.jointed d) → w.ragdolls.body? id' = some (.jointed d') →
      d.shapes.Disjoint d'.shapes

/-- The root of a ragdoll is at its target, seen from the frame of the simulation. -/
def Home (s : Simulation ℝ) (w : World ℝ) (id : RagdollId) : Prop :=
  ∀ d, w.ragdolls.body? id = some (.jointed d) → ∃ x p, d.root? = some x ∧
    w.shapes.position? x = some p ∧ p.distance (d.target - s.origin) ≤ Scalar.tolerance

theorem Moored.congr (h : s.Moored w) (hmembers : s'.ragdolls = s.ragdolls)
    (hhold : v.hold? = w.hold?) (hsize : v.shapes.size = w.shapes.size) : s'.Moored v := by
  refine ⟨fun id hid d hd => ?_, fun id hid id' hid' hne d d' hd hd' => ?_⟩
  · rw [hmembers] at hid
    obtain ⟨d₀, hd₀, heq⟩ := World.exists_jointed_of_hold? hhold hd
    exact (h.whole id hid d₀ hd₀).congr heq hsize
  · rw [hmembers] at hid hid'
    obtain ⟨d₀, hd₀, heq⟩ := World.exists_jointed_of_hold? hhold hd
    obtain ⟨d₁, hd₁, heq'⟩ := World.exists_jointed_of_hold? hhold hd'
    have happart := h.apart id hid id' hid' hne d₀ d₁ hd₀ hd₁
    rwa [← JointedDoll.shapes_of_hold heq, ← JointedDoll.shapes_of_hold heq'] at happart

theorem hold?_recenter (s : Simulation ℝ) (recording : Bool) (w : World ℝ) (id : RagdollId) :
    (s.recenter recording w id).hold? = w.hold? :=
  World.hold?_actRagdoll w id fun r shapes => r.hold?_recenter s.origin recording shapes

theorem size_recenter (s : Simulation ℝ) (recording : Bool) (w : World ℝ) (id : RagdollId) :
    (s.recenter recording w id).shapes.size = w.shapes.size := by
  rw [Simulation.recenter, World.actRagdoll]
  split
  · rfl
  next r _ =>
    cases r with
    | jointed d => exact JointedDoll.size_recenter { d with frame := s.origin } recording w.shapes
    | puppet d => rfl

theorem Moored.recenter (h : s.Moored w) (recording : Bool) (id : RagdollId) :
    s.Moored (s.recenter recording w id) :=
  h.congr rfl (s.hold?_recenter recording w id) (s.size_recenter recording w id)

/-- Recentring brings a ragdoll home. -/
theorem Moored.home_recenter (h : s.Moored w) (hid : id ∈ s.ragdolls.members) (recording : Bool) :
    s.Home (s.recenter recording w id) id := by
  intro d hd
  obtain ⟨d₀, hd₀, hhold⟩ := World.exists_jointed_of_hold? (s.hold?_recenter recording w id) hd
  have hframed : JointedDoll.Whole w.shapes { d₀ with frame := s.origin } :=
    (h.whole id hid d₀ hd₀).congr rfl rfl
  obtain ⟨x, p, hroot, hp, hnear⟩ := JointedDoll.near_recenter hframed recording
  have hshapes := World.shapes_actRagdoll
    (fun r shapes => (r.inFrame s.origin).recenter recording shapes) hd₀
  refine ⟨x, p, (JointedDoll.root?_of_hold hhold).trans hroot, ?_, ?_⟩
  · rw [Simulation.recenter, hshapes]
    exact hp
  · rwa [JointedDoll.target_of_hold hhold]

/-- A ragdoll stays home while another one is recentred. -/
theorem Moored.home_of_ne (h : s.Moored w) (hid : id ∈ s.ragdolls.members)
    (hid' : id' ∈ s.ragdolls.members) (hne : id' ≠ id) (recording : Bool) (hhome : s.Home w id) :
    s.Home (s.recenter recording w id') id := by
  intro d hd
  have hbody := World.body?_actRagdoll_of_ne (w := w)
    (fun r shapes => (r.inFrame s.origin).recenter recording shapes) hne
  have hd₀ := hbody.symm.trans hd
  obtain ⟨x, p, hroot, hp, hnear⟩ := hhome d hd₀
  have hmem := JointedDoll.mem_shapes_of_root? hroot
  refine ⟨x, p, hroot, ?_, hnear⟩
  have hstays : (s.recenter recording w id').shapes.find? x = w.shapes.find? x := by
    cases hother : w.ragdolls.body? id' with
    | none => rw [Simulation.recenter, World.actRagdoll_of_none hother]
    | some r =>
      rw [Simulation.recenter, World.shapes_actRagdoll _ hother]
      cases r with
      | puppet d' => rfl
      | jointed d' =>
        have hapart : x ∉ d'.shapes := fun hx => h.apart id' hid' id hid hne d' d hother hd₀ hx hmem
        exact ((JointedDoll.confined_recenter (List.Subset.refl _) recording).changed w.shapes
          trivial).find?_eq hapart
  rw [Shapes.position?, hstays]
  exact hp

/-- Ragdolls that are recentred in turn come home, and those that are home stay there. -/
theorem Moored.home_foldl (recording : Bool) {ids : List RagdollId}
    (hids : ids ⊆ s.ragdolls.members) (h : s.Moored w) :
    s.Moored (ids.foldl (s.recenter recording) w) ∧ ∀ id ∈ s.ragdolls.members,
      id ∈ ids ∨ s.Home w id → s.Home (ids.foldl (s.recenter recording) w) id := by
  induction ids generalizing w with
  | nil => exact ⟨h, fun id _ hhome => hhome.resolve_left List.not_mem_nil⟩
  | cons first rest ih =>
    have hfirst : first ∈ s.ragdolls.members := hids List.mem_cons_self
    obtain ⟨hmoored, hrest⟩ :=
      ih (fun id hid => hids (List.mem_cons_of_mem _ hid)) (h.recenter recording first)
    refine ⟨hmoored, fun id hid hhome => hrest id hid ?_⟩
    by_cases hsame : first = id
    · subst hsame
      exact .inr (h.home_recenter hfirst recording)
    · rcases hhome with hlisted | hhome
      · exact .inl ((List.mem_cons.1 hlisted).resolve_left (Ne.symm hsame))
      · exact .inr (h.home_of_ne hid hfirst hsame recording hhome)

theorem Moored.home_recenterAll (h : s.Moored w) (hitOther : Bool)
    (hid : id ∈ s.ragdolls.members) : s.Home (s.recenterAll hitOther w) id := by
  have hprimary : s.ragdolls.primary.toList ⊆ s.ragdolls.members := List.subset_append_left _ _
  have hothers : s.ragdolls.others ⊆ s.ragdolls.members := List.subset_append_right _ _
  obtain ⟨hmoored, hfirst⟩ := h.home_foldl hitOther hprimary
  obtain ⟨-, hall⟩ := hmoored.home_foldl false hothers
  refine hall id hid ?_
  rcases List.mem_append.1 hid with hid' | hid'
  · exact .inr (hfirst id hid (.inl hid'))
  · exact .inl hid'

/-! ### Steps -/

theorem hold?_recenterAll (s : Simulation ℝ) (hitOther : Bool) (w : World ℝ) :
    (s.recenterAll hitOther w).hold? = w.hold? :=
  (World.hold?_foldl (s.hold?_recenter false) _ _).trans
    (World.hold?_foldl (s.hold?_recenter hitOther) _ w)

theorem hold?_step (s : Simulation ℝ) (w : World ℝ) (order : StepOrder ℝ) :
    (s.step w order).2.2.hold? = w.hold? :=
  (hold?_recenterAll _ _ _).trans (s.hold?_relaxed w order)

theorem Moored.home_step (h : s.Moored w) (order : StepOrder ℝ)
    (hid : id ∈ s.ragdolls.members) : s.Home (s.step w order).2.2 id := by
  have hmembers := s.ragdolls_sim_relaxed w order
  have hmoored : (s.relaxed w order).sim.Moored (s.relaxed w order).world :=
    h.congr hmembers (s.hold?_relaxed w order) (s.size_relaxed w order)
  intro d hd
  rw [world_step] at hd ⊢
  rw [← s.origin_relaxed w order]
  exact hmoored.home_recenterAll _ (hmembers ▸ hid) d hd

/-- **Roots are brought to their targets by shifting whole ragdolls.**  Seen from the frame of the
shapes, a root that is near its target leaves the ragdoll as it is; otherwise the ragdoll is shifted
as one piece, its past included, until the root is at the target, and only a long shift that is
recorded is remembered, less the drift.  To do it again changes nothing.  So if the ragdolls of a
simulation share no shapes, then after every step, whatever else it does, each of their roots is
near its target, seen from the frame of the simulation. -/
theorem roots_at_targets :
    (∀ (d : JointedDoll ℝ) (shapes : Shapes ℝ) (recording : Bool), d.Whole shapes →
      ∃ x p, d.root? = some x ∧ shapes.position? x = some p ∧
        (p.distance (d.target - d.frame) ≤ Scalar.tolerance →
          d.recenter recording shapes = (d, shapes)) ∧
        (Scalar.tolerance < p.distance (d.target - d.frame) →
          JointedDoll.Recentered d shapes recording (d.target - d.frame - p)
            (d.recenter recording shapes).1 (d.recenter recording shapes).2) ∧
        ∀ again, (d.recenter recording shapes).1.recenter again (d.recenter recording shapes).2 =
          d.recenter recording shapes) ∧
    ∀ (s : Simulation ℝ) (w : World ℝ) (order : StepOrder ℝ), s.Moored w →
      (s.step w order).2.2.hold? = w.hold? ∧
      ∀ id ∈ s.ragdolls.members, ∀ d, w.ragdolls.body? id = some (.jointed d) →
        ∃ x p, d.root? = some x ∧ (s.step w order).2.2.shapes.position? x = some p ∧
          p.distance (d.target - s.origin) ≤ Scalar.tolerance := by
  constructor
  · intro d shapes recording h
    obtain ⟨x, p, hroot, hp⟩ := h.exists_root
    have hv := JointedDoll.rootOffset?_of_root? hroot hp
    refine ⟨x, p, hroot, hp, fun hnear => ?_, fun hfar => ?_,
      JointedDoll.recenter_recenter h recording⟩
    · rw [Vec3.distance_comm] at hnear
      exact JointedDoll.recenter_of_near hv hnear recording
    · rw [Vec3.distance_comm] at hfar
      exact JointedDoll.recentered_recenter h hv hfar recording
  · intro s w order h
    have hhold := s.hold?_step w order
    refine ⟨hhold, fun id hid d hd => ?_⟩
    obtain ⟨d', hd', hheld⟩ := World.exists_jointed_of_hold? hhold.symm hd
    obtain ⟨x, p, hroot, hp, hnear⟩ := h.home_step order hid d' hd'
    rw [← JointedDoll.root?_of_hold hheld] at hroot
    rw [← JointedDoll.target_of_hold hheld] at hnear
    exact ⟨x, p, hroot, hp, hnear⟩

/-- A ragdoll of the first two balls, the first of which belongs two ahead of where it is. -/
noncomputable def lagging : JointedDoll ℝ :=
  { JointedDoll.atRest [⟨0⟩, ⟨1⟩] Joint.dumbbell with
    target := ⟨1, 0, 0⟩
    frame := ⟨-1, 0, 0⟩ }

/-- Two ragdolls, the second one of a single ball. -/
noncomputable def parade : World ℝ where
  shapes := Joint.dumbbell
  entities := .empty
  ragdolls := ⟨#[⟨.jointed lagging, some ⟨1⟩⟩,
    ⟨.jointed (JointedDoll.atRest [⟨2⟩] Joint.dumbbell), some ⟨1⟩⟩]⟩

noncomputable def marshal : Simulation ℝ :=
  { fresh ⟨1⟩ .standard (.still 0) with
    ragdolls := ⟨some ⟨0⟩, [⟨1⟩]⟩
    origin := ⟨-1, 0, 0⟩ }

theorem whole_lagging : lagging.Whole Joint.dumbbell := by
  refine ⟨by decide, fun x hx => ?_, by decide⟩
  rcases List.mem_pair.1 hx with rfl | rfl <;> rfl

theorem moored_parade : marshal.Moored parade := by
  refine ⟨fun id hid d hd => ?_, fun id hid id' hid' hne d d' hd hd' => ?_⟩
  · rcases List.mem_pair.1 hid with rfl | rfl
    · cases hd
      exact whole_lagging
    · cases hd
      refine ⟨by decide, fun x hx => ?_, by decide⟩
      rw [List.mem_singleton.1 hx]
      rfl
  · have hballs : lagging.shapes.Disjoint [⟨2⟩] := List.disjoint_singleton.2 (by decide)
    rcases List.mem_pair.1 hid with rfl | rfl <;> rcases List.mem_pair.1 hid' with rfl | rfl
    · exact absurd rfl hne
    · cases hd
      cases hd'
      exact hballs
    · cases hd
      cases hd'
      exact hballs.symm
    · exact absurd rfl hne

/-- The first ragdoll is shifted by two, which it remembers less the drift.  After a step its root
is where it belongs. -/
theorem roots_at_targets_of_parade :
    lagging.Whole Joint.dumbbell ∧
    Scalar.tolerance < Vec3.distance (0 : Vec3 ℝ) (lagging.target - lagging.frame) ∧
    (lagging.recenter true Joint.dumbbell).2.position? ⟨0⟩ = some ⟨2, 0, 0⟩ ∧
    (lagging.recenter true Joint.dumbbell).2.position? ⟨1⟩ = some ⟨8, 0, 0⟩ ∧
    (lagging.recenter true Joint.dumbbell).1.movement.length = 2 - JointedDoll.drift ∧
    marshal.Moored parade ∧
    ∃ p, (marshal.step parade ⟨1, 0, 8, 1000⟩).2.2.shapes.position? ⟨0⟩ = some p ∧
      p.distance ⟨2, 0, 0⟩ ≤ Scalar.tolerance := by
  have htwo : lagging.target - lagging.frame = ⟨2, 0, 0⟩ := by
    norm_num [lagging, Vec3.sub_def]
  have hlength : (⟨2, 0, 0⟩ : Vec3 ℝ).length = 2 := by
    have hsquare : (⟨2, 0, 0⟩ : Vec3 ℝ).lengthSq = 2 * 2 := by norm_num [Vec3.lengthSq, Vec3.dot]
    rw [Vec3.length, hsquare, Scalar.sqrt_real]
    exact Real.sqrt_mul_self zero_le_two
  have hdistance : Vec3.distance (0 : Vec3 ℝ) (lagging.target - lagging.frame) = 2 := by
    rw [htwo, Vec3.distance, zero_sub, Vec3.length_neg, hlength]
  have hfar : Scalar.tolerance < Vec3.distance (0 : Vec3 ℝ) (lagging.target - lagging.frame) := by
    rw [hdistance]
    norm_num [Scalar.tolerance]
  obtain ⟨hdoll, hstep⟩ := roots_at_targets
  obtain ⟨x, p, hroot, hp, -, hrecentered, -⟩ := hdoll lagging Joint.dumbbell true whole_lagging
  obtain rfl : ⟨0⟩ = x := Option.some.inj hroot
  obtain rfl : 0 = p := Option.some.inj hp
  have hshifted := hrecentered hfar
  rw [sub_zero, htwo] at hshifted
  have hplaced := hshifted.arrived
  have hsecond : (lagging.recenter true Joint.dumbbell).2.find? ⟨1⟩ =
      some ((Joint.weight 6 6).moveBy ⟨2, 0, 0⟩) := hshifted.moved ⟨1⟩ (by decide)
  obtain ⟨k, -, -, hmovement⟩ := hshifted.recorded rfl (by norm_num [hlength, JointedDoll.drift])
  obtain ⟨x, p, hroot, hp, hnear⟩ :=
    (hstep marshal parade ⟨1, 0, 8, 1000⟩ moored_parade).2 ⟨0⟩ (by decide) lagging rfl
  obtain rfl : ⟨0⟩ = x := Option.some.inj hroot
  refine ⟨whole_lagging, hfar, ?_, ?_, ?_, moored_parade, p, hp, ?_⟩
  · rw [← htwo]
    exact hplaced
  · rw [Shapes.position?_of_find? hsecond, Shape.position_moveBy]
    norm_num [Joint.weight, Vec3.add_def]
  · rwa [hlength, show lagging.movement = 0 from rfl, sub_zero] at hmovement
  · rwa [← htwo]

end Simulation

end RagdollDynamics
