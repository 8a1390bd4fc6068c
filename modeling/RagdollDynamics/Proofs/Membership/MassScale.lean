import RagdollDynamics.Proofs.Membership.Scene
import RagdollDynamics.Proofs.Membership.Weight

/-!
# Mass scales

A ragdoll carries the mass scale of a simulation for as long as it is one of its others, and scale
one otherwise, and so does every shape of it (`Scene.mass_scale_of_history`), whatever happens in a
scene in which ragdolls come as the world welcomes them and no simulation goes out of use.
-/

namespace RagdollDynamics

variable {K : Type}

namespace Scene

/-- What may happen while mass scales are to mean something: ragdolls come as the world welcomes
them, simulations come with a scale that shapes can have, and no simulation goes out of use. -/
def Orderly [Scalar K] (scene : Scene K) : Event K → Prop
  | .addRagdoll ragdoll => scene.world.Welcomes ragdoll
  | .create _ config _ => Scalar.ulp ≤ config.otherMassScale
  | .drop _ => False
  | .release _ => False
  | _ => True

/-- The others of a simulation have its scale, and every other ragdoll has scale one. -/
structure Assigns [Scalar K] (scene : Scene K) (σ : RagdollId → K) : Prop where
  others : ∀ id s, scene.live id = some s → ∀ d ∈ s.ragdolls.others, σ d = s.config.otherMassScale
  rest : ∀ d, (∀ id s, scene.live id = some s → d ∉ s.ragdolls.others) → σ d = 1

/-- What holds throughout every orderly history of a scene. -/
structure InScale [Scalar K] (scene : Scene K) : Prop where
  consistent : scene.Consistent
  admitted : ∀ id s, scene.live id = some s → Scalar.ulp ≤ s.config.otherMassScale
  weighed : ∃ σ, scene.Assigns σ ∧ scene.world.Weighs σ

variable [Scalar K] {scene scene' : Scene K} {w' : World K} {id : SimulationId}
  {σ : RagdollId → K}

theorem inScale_empty : (empty : Scene K).InScale where
  consistent := consistent_empty
  admitted := by
    intro _ _ h
    cases h
  weighed := by
    have hnone : ∀ d : RagdollId, (World.empty : World K).outline? d = none := fun d => by
      simp [World.outline?, Slots.body?, World.empty, Arena.empty, Arena.find?]
    refine ⟨fun _ => 1, ⟨fun _ _ h => ?_, fun _ _ => rfl⟩, fun d o ho => ?_, fun d _ o _ ho => ?_⟩
    · cases h
    · cases (hnone d).symm.trans ho
    · cases (hnone d).symm.trans ho

omit [Scalar K] in
/-- Nobody is among the others of two simulations. -/
theorem Consistent.not_mem_others (hs : scene.Consistent) {i j : SimulationId}
    {s t : Simulation K} (hi : scene.live i = some s) (hj : scene.live j = some t) (hne : i ≠ j)
    {d : RagdollId} (hd : d ∈ s.ragdolls.others) : d ∉ t.ragdolls.others := by
  intro hd'
  have howner := ((hs.settled i s hi).ragdolls.owner?_iff d).2 (Roster.contains_iff.2 (.inr hd))
  have howner' := ((hs.settled j t hj).ragdolls.owner?_iff d).2 (Roster.contains_iff.2 (.inr hd'))
  rw [hs.id_eq i s hi] at howner
  rw [hs.id_eq j t hj] at howner'
  exact hne (Option.some.inj (howner.symm.trans howner'))

/-- Ragdolls that come to the others of a simulation, or leave them, change their scale. -/
theorem Assigns.command (ha : scene.Assigns σ) (hs : scene.Consistent) {s s' : Simulation K}
    (hlive : scene.live id = some s) (hconfig : s'.config = s.config)
    (hs' : Consistent { scene.put id (some s') with world := w' }) :
    Assigns { scene.put id (some s') with world := w' } (s.rescaled s' σ) := by
  have hown : (scene.put id (some s')).live id = some s' := live_put.2 (.inl ⟨rfl, rfl⟩)
  refine ⟨fun i t ht d hd => ?_, fun d hd => ?_⟩
  · rcases live_put.1 ht with ⟨rfl, he⟩ | ⟨hne, hold⟩
    · obtain rfl := Option.some.inj he
      rw [Simulation.rescaled, if_pos hd, if_pos hd, hconfig]
      split
      next hbefore => exact ha.others i s hlive d hbefore
      next => rfl
    · have hbefore : d ∉ s.ragdolls.others := hs.not_mem_others hold hlive hne hd
      have hafter : d ∉ s'.ragdolls.others := hs'.not_mem_others ht hown hne hd
      rw [Simulation.rescaled, if_neg hbefore, if_neg hafter]
      exact ha.others i t hold d hd
  · have hafter : d ∉ s'.ragdolls.others := hd id s' hown
    rw [Simulation.rescaled, if_neg hafter, if_neg hafter]
    split
    next => rfl
    next hbefore =>
      refine ha.rest d fun i t ht => ?_
      by_cases hi : i = id
      · subst hi
        exact Option.some.inj (hlive.symm.trans ht) ▸ hbefore
      · exact hd i t (live_put.2 (.inr ⟨hi, ht⟩))

theorem Assigns.create (ha : scene.Assigns σ) (hnew : ∀ s, scene.live id ≠ some s)
    (config : Config K) (clock : Clock) :
    Assigns { scene.put id (some (.fresh id config clock)) with issued := id :: scene.issued } σ := by
  refine ⟨fun i t ht d hd => ?_, fun d hd => ha.rest d fun i t ht => ?_⟩
  · rcases live_put.1 ht with ⟨rfl, he⟩ | ⟨-, hold⟩
    · obtain rfl := Option.some.inj he
      exact nomatch hd
    · exact ha.others i t hold d hd
  · have hne : i ≠ id := fun he => hnew t (he ▸ ht)
    exact hd i t (live_put.2 (.inr ⟨hne, ht⟩))

/-- A handle that names no ragdoll is nobody's member. -/
theorem InScale.one_of_unknown (hs : scene.InScale) (ha : scene.Assigns σ) {d : RagdollId}
    (hd : d.index = scene.world.ragdolls.size) : σ d = 1 := by
  refine ha.rest d fun id s hlive hmem => ?_
  have howner := ((hs.consistent.settled id s hlive).ragdolls.owner?_iff d).2
    (Roster.contains_iff.2 (.inr hmem))
  have hnone := (Arena.find?_eq_none_iff scene.world.ragdolls d).2 (Nat.le_of_eq hd.symm)
  rw [Slots.owner?, Slots.record?, hnone] at howner
  cases howner

theorem InScale.command (hs : scene.InScale) (hone : (Scalar.ulp : K) ≤ 1) {s s' : Simulation K}
    {c : Command K} (hlive : scene.live id = some s) (hc : s.perform scene.world c = .ok (s', w')) :
    InScale { scene.put id (some s') with world := w' } := by
  have hlawful := Simulation.perform_lawful hc
  have hconsistent := hs.consistent.command hlive hlawful
  have hscale := hs.admitted id s hlive
  have hnodup := (hs.consistent.settled id s hlive).ragdolls.sound.nodup
  obtain ⟨σ, ha, hw⟩ := hs.weighed
  refine ⟨hconsistent, fun i t ht => ?_, s.rescaled s' σ, ?_, ?_⟩
  · rcases live_put.1 ht with ⟨-, he⟩ | ⟨-, hold⟩
    · rw [← Option.some.inj he, hlawful.config]
      exact hscale
    · exact hs.admitted i t hold
  · exact ha.command hs.consistent hlive hlawful.config hconsistent
  · exact Simulation.weighs_perform hc hw hone hscale hnodup

/-- **Every orderly event keeps a scene in scale.** -/
theorem InScale.act (hs : scene.InScale) (hone : (Scalar.ulp : K) ≤ 1) {e : Event K}
    (horderly : scene.Orderly e) (h : scene.act e = .ok scene') : scene'.InScale := by
  have hconsistent := hs.consistent.act h
  obtain ⟨σ, ha, hw⟩ := hs.weighed
  cases e with
  | addShape shape =>
    obtain rfl := Except.ok.inj h
    exact ⟨hconsistent, hs.admitted, σ, ⟨ha.others, ha.rest⟩, hw.addShape shape⟩
  | addEntity entity =>
    cases hadd : scene.world.addEntity entity with
    | error v =>
      rw [Scene.act, hadd] at h
      cases h
    | ok added =>
      rw [Scene.act, hadd] at h
      obtain rfl := Except.ok.inj h
      exact ⟨hconsistent, hs.admitted, σ, ⟨ha.others, ha.rest⟩, hw.addEntity hadd⟩
  | addRagdoll ragdoll =>
    obtain rfl := Except.ok.inj h
    exact ⟨hconsistent, hs.admitted, σ, ⟨ha.others, ha.rest⟩,
      hw.addRagdoll horderly fun d hd => hs.one_of_unknown ha hd⟩
  | create id config clock =>
    rw [Scene.act] at h
    split at h
    next => exact Except.ok.inj h ▸ hs
    next hid =>
      obtain rfl := Except.ok.inj h
      have hnew : ∀ s, scene.live id ≠ some s := fun s hlive => hid (hs.consistent.issued id s hlive)
      refine ⟨hconsistent, fun i t ht => ?_, σ, ha.create hnew config clock, hw⟩
      rcases live_put.1 ht with ⟨-, he⟩ | ⟨-, hold⟩
      · exact Option.some.inj he ▸ horderly
      · exact hs.admitted i t hold
  | command id c =>
    rw [Scene.act] at h
    cases hlive : scene.live id with
    | none =>
      simp only [hlive] at h
      exact Except.ok.inj h ▸ hs
    | some s =>
      simp only [hlive] at h
      obtain ⟨⟨s', w'⟩, hc⟩ := (hs.consistent.settled id s hlive).perform_ok c
      rw [hc] at h
      exact Except.ok.inj h ▸ hs.command hone hlive hc
  | drop id => exact horderly.elim
  | release id => exact horderly.elim

/-- **Mass scales over whole histories.**  After every orderly history, a ragdoll among the others
of a simulation has the mass scale of that simulation, and so has every shape of it; a ragdoll that
is free, or primary, has scale one, and so have its shapes. -/
theorem mass_scale_of_history (past : List (Event Float32))
    (horderly : Observes act empty Orderly past) (scene : Scene Float32)
    (h : outcome act empty past = .ok scene) (d : RagdollId) (r : Ragdoll Float32)
    (hr : scene.world.ragdolls.body? d = some r) :
    (∀ id s, scene.live id = some s → d ∈ s.ragdolls.others →
      r.massScale = s.config.otherMassScale ∧
      ∀ x ∈ r.shapes, scene.world.shapeScale? x = some s.config.otherMassScale) ∧
    ((∀ id s, scene.live id = some s → d ∉ s.ragdolls.others) →
      r.massScale = 1 ∧ ∀ x ∈ r.shapes, scene.world.shapeScale? x = some 1) := by
  have hone : (Scalar.ulp : Float32) ≤ 1 := by decide +kernel
  have hs : scene.InScale := outcome_invariant_of_observes inScale_empty
    (fun _ _ _ hs horderly h => hs.act hone horderly h) horderly h
  obtain ⟨σ, ha, hw⟩ := hs.weighed
  obtain ⟨-, hmass, hshapes⟩ := hw.scale d r.outline (by rw [World.outline?, hr]; rfl)
  refine ⟨fun id s hlive hmem => ?_, fun hfree => ?_⟩
  · rw [← ha.others id s hlive d hmem]
    exact ⟨hmass, hshapes⟩
  · rw [← ha.rest d hfree]
    exact ⟨hmass, hshapes⟩

/-- A ragdoll of one ball comes to the others of a simulation, which steps. -/
def company : List (Event Float32) :=
  [.command ⟨1⟩ (.step ⟨0.01, 0, 1, 0⟩), .command ⟨1⟩ (.admitRagdoll ⟨0⟩),
    .create ⟨1⟩ .standard (.still 0), .addRagdoll (.jointed (.atRest [⟨0⟩] .empty)),
    .addShape (.ofForm (.sphere 1) 1)]

theorem orderly_company : Observes act empty Orderly company := by
  refine ⟨⟨⟨⟨⟨trivial, fun _ _ => trivial⟩, fun scene h => ?_⟩, fun _ _ => ?_⟩, fun _ _ => trivial⟩,
    fun _ _ => trivial⟩
  · -- the world holds one ball, and no ragdoll yet
    obtain rfl := Except.ok.inj h
    refine ⟨rfl, rfl, fun x hx => ?_, fun d o ho => ?_⟩
    · rw [List.mem_singleton.1 hx]
      rfl
    · exact nomatch ho
  · have hscale : (Scalar.ulp : Float32) ≤ (Config.standard : Config Float32).otherMassScale := by
      decide +kernel
    exact hscale

theorem mass_scale_of_company : ∃ scene s r, outcome act empty company = .ok scene ∧
    scene.live ⟨1⟩ = some s ∧ ⟨0⟩ ∈ s.ragdolls.others ∧
    scene.world.ragdolls.body? ⟨0⟩ = some r ∧ r.massScale = s.config.otherMassScale := by
  have hrun : (outcome act empty company).toOption.any (fun scene =>
      (scene.live ⟨1⟩).any (fun s => decide (⟨0⟩ ∈ s.ragdolls.others)) &&
        (scene.world.ragdolls.body? ⟨0⟩).isSome) = true := by decide +kernel
  cases h : outcome act empty company with
  | error v => simp [h, Except.toOption] at hrun
  | ok scene =>
    simp only [h, Except.toOption, Option.any_some, Bool.and_eq_true] at hrun
    obtain ⟨s, hlive, hmem⟩ := (Option.any_eq_true _ _).1 hrun.1
    obtain ⟨r, hr⟩ := Option.isSome_iff_exists.1 hrun.2
    have hscales := mass_scale_of_history company orderly_company scene h ⟨0⟩ r hr
    have hmem := of_decide_eq_true hmem
    exact ⟨scene, s, r, rfl, hlive, hmem, hr, (hscales.1 ⟨1⟩ s hlive hmem).1⟩

end Scene

end RagdollDynamics
