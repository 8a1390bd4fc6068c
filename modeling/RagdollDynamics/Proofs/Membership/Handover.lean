import Mathlib.Logic.Function.Basic
import RagdollDynamics.Proofs.Frame.Region
import RagdollDynamics.Proofs.Membership.Requests

/-!
# Handing objects over

A request of a simulation hands objects over between nobody and that simulation, whatever rosters
and records say before it, whether they agree or not.  So in a fleet of worlds and simulations, each
of them used with any other, no request touches what another simulation owns
(`Fleet.owners_of_request`), and neither does any sequence of requests
(`Fleet.owners_of_requests_by_others`).
-/

namespace RagdollDynamics

/-! ### Records -/

/-- The owner on record stays, or the object passes between nobody and `sim`. -/
inductive Handed (sim : SimulationId) : Option SimulationId → Option SimulationId → Prop
  | stays (owner : Option SimulationId) : Handed sim owner owner
  | taken : Handed sim none (some sim)
  | given : Handed sim (some sim) none

theorem Handed.trans {sim : SimulationId} {a b c : Option SimulationId} (h₁ : Handed sim a b)
    (h₂ : Handed sim b c) : Handed sim a c := by
  cases h₁ with
  | stays => exact h₂
  | taken =>
    cases h₂ with
    | stays => exact .taken
    | given => exact .stays none
  | given =>
    cases h₂ with
    | stays => exact .given
    | taken => exact .stays (some sim)

/-- What another one owns stays with it, and nothing is handed to another one. -/
theorem Handed.eq_some_iff {sim other : SimulationId} {a b : Option SimulationId}
    (h : Handed sim a b) (hne : other ≠ sim) : b = some other ↔ a = some other := by
  cases h with
  | stays => exact Iff.rfl
  | taken => simp [Ne.symm hne]
  | given => simp [Ne.symm hne]

/-- The owner of the object in a slot is handed over, whatever becomes of the object. -/
def Slot.Handed {α : Type} (sim : SimulationId) (s s' : Slot α) : Prop :=
  RagdollDynamics.Handed sim s.owner s'.owner

instance {α : Type} {sim : SimulationId} : Std.Refl (Slot.Handed (α := α) sim) :=
  ⟨fun s => .stays s.owner⟩

instance {α : Type} {sim : SimulationId} : IsTrans (Slot α) (Slot.Handed sim) :=
  ⟨fun _ _ _ h₁ h₂ => Handed.trans h₁ h₂⟩

namespace Slots

variable {k : HandleKind} {α : Type} {slots slots' : Slots k α} {sim other : SimulationId}
  {id : Handle k} {ids : List (Handle k)}

theorem handed_claim (hid : id ∈ ids) (hrec : slots.record? id = some none) :
    slots.ChangedOn (Slot.Handed sim) ids (slots.claim id sim) := by
  refine Arena.changedOn_modify hid fun s hs => ?_
  rw [record?, hs] at hrec
  have hfree : s.owner = none := Option.some.inj hrec
  rw [Slot.Handed, hfree]
  exact .taken

theorem handed_release (hid : id ∈ ids) :
    slots.ChangedOn (Slot.Handed sim) ids (slots.release sim id) := by
  refine Arena.changedOn_modify hid fun s _ => ?_
  unfold Slot.Handed Slot.releasedBy
  split
  next hown => rw [hown]; exact .given
  next => exact .stays _

theorem handed_replace (hid : id ∈ ids) (body : α) :
    slots.ChangedOn (Slot.Handed sim) ids (slots.replace id body) :=
  Arena.changedOn_modify hid fun s _ => .stays s.owner

/-- Objects that are handed over between nobody and one simulation stay with any other one. -/
theorem owner?_iff_of_handed (h : slots.ChangedOn (Slot.Handed sim) ids slots')
    (hne : other ≠ sim) (x : Handle k) :
    slots'.owner? x = some other ↔ slots.owner? x = some other := by
  unfold owner? record?
  cases hx : slots.find? x with
  | none => rw [h.find?_eq_none hx]
  | some s =>
    obtain ⟨s', hs', hhanded⟩ := h.find?_rel hx
    rw [hs']
    exact hhanded.eq_some_iff hne

end Slots

/-! ### Worlds -/

/-- Of the entities and ragdolls listed, some are handed over between nobody and `sim`; all other
entities and ragdolls stay exactly as they are. -/
structure World.HandedOver {K : Type} (sim : SimulationId) (es : List EntityId)
    (ds : List RagdollId) (w w' : World K) : Prop where
  entities : w.entities.ChangedOn (Slot.Handed sim) es w'.entities
  ragdolls : w.ragdolls.ChangedOn (Slot.Handed sim) ds w'.ragdolls

namespace World.HandedOver

variable {K : Type} {w w' w'' : World K} {sim other : SimulationId} {es : List EntityId}
  {ds : List RagdollId}

theorem refl (w : World K) : w.HandedOver sim es ds w := ⟨.refl es _, .refl ds _⟩

theorem trans (h₁ : w.HandedOver sim es ds w') (h₂ : w'.HandedOver sim es ds w'') :
    w.HandedOver sim es ds w'' :=
  ⟨h₁.entities.trans h₂.entities, h₁.ragdolls.trans h₂.ragdolls⟩

theorem foldl {α : Type} {f : World K → α → World K} {l : List α}
    (hf : ∀ w : World K, ∀ a ∈ l, w.HandedOver sim es ds (f w a)) (w : World K) :
    w.HandedOver sim es ds (l.foldl f w) :=
  List.foldlRecOn l f (refl w) fun v hv a ha => hv.trans (hf v a ha)

/-- No request touches what another simulation owns. -/
theorem owner?_iff (h : w.HandedOver sim es ds w') (hne : other ≠ sim) :
    (∀ e, w'.entities.owner? e = some other ↔ w.entities.owner? e = some other) ∧
      ∀ d, w'.ragdolls.owner? d = some other ↔ w.ragdolls.owner? d = some other :=
  ⟨Slots.owner?_iff_of_handed h.entities hne, Slots.owner?_iff_of_handed h.ragdolls hne⟩

end World.HandedOver

/-! ### Requests -/

namespace Command

variable {K : Type}

def isRequest : Command K → Bool
  | .disband => true
  | c => c.asksEntity || c.asksRagdoll

def namedEntities : Command K → List EntityId
  | .admitEntity id => [id]
  | .dismissEntity id => [id]
  | .setEntity id => id.toList
  | _ => []

def namedRagdolls : Command K → List RagdollId
  | .admitRagdoll id => [id]
  | .dismissRagdoll id => [id]
  | .setRagdoll id => id.toList
  | _ => []

end Command

namespace Simulation

variable {K : Type} {s s' : Simulation K} {w w' : World K} {es : List EntityId}
  {ds : List RagdollId}

theorem handedOver_releaseEntity {id : EntityId} (hid : id ∈ es) (w : World K) :
    w.HandedOver s.id es ds (s.releaseEntity w id) :=
  ⟨Slots.handed_release hid, .refl ds _⟩

theorem handedOver_releaseRagdoll {id : RagdollId} (hid : id ∈ ds) (w : World K) :
    w.HandedOver s.id es ds (s.releaseRagdoll w id) :=
  ⟨.refl es _, Slots.handed_release hid⟩

theorem handedOver_unseatEntity (hes : s.entities.members ⊆ es) (w : World K) :
    w.HandedOver s.id es ds (s.unseatEntity w).2 := by
  unfold unseatEntity
  split
  next => exact .refl w
  next old hold => exact handedOver_releaseEntity (hes (by simp [Roster.members, hold])) w

theorem handedOver_unseatRagdoll (hds : s.ragdolls.members ⊆ ds) (w : World K) :
    w.HandedOver s.id es ds (s.unseatRagdoll w).2 := by
  unfold unseatRagdoll
  split
  next => exact .refl w
  next old hold => exact handedOver_releaseRagdoll (hds (by simp [Roster.members, hold])) w

theorem handedOver_admitEntity {id : EntityId} {o : Outcome .entity K}
    (h : s.admitEntity w id = .ok o) (hid : id ∈ es) : w.HandedOver s.id es ds o.world := by
  unfold admitEntity at h
  split at h
  next => exact Except.ok.inj h ▸ .refl w
  next => exact Except.ok.inj h ▸ .refl w
  next => exact nomatch h
  next hg =>
    rw [← Except.ok.inj h]
    exact ⟨Slots.handed_claim hid (Roster.admission_eq_granted_iff.1 hg).1, .refl ds _⟩

theorem handedOver_setEntity {id : Option EntityId} {o : Outcome .entity K}
    (h : s.setEntity w id = .ok o) (hid : id.toList ⊆ es) (hes : s.entities.members ⊆ es) :
    w.HandedOver s.id es ds o.world := by
  have hleft : w.HandedOver s.id es ds (s.unseatEntity w).2 := handedOver_unseatEntity hes w
  cases id with
  | none => exact Except.ok.inj h ▸ hleft
  | some id =>
    simp only [setEntity, promoteEntity] at h
    split at h
    next => exact Except.ok.inj h ▸ .refl w
    next => exact Except.ok.inj h ▸ .refl w
    next => cases h
    next hg =>
      rw [← Except.ok.inj h]
      have hrec := (unseatEntity_granted hg).2.2
      exact hleft.trans ⟨Slots.handed_claim (hid (by simp)) hrec, .refl ds _⟩

theorem handedOver_dismissEntity {id : EntityId} (hid : id ∈ es) (w : World K) :
    w.HandedOver s.id es ds (s.dismissEntity w id).2 := by
  unfold dismissEntity
  split
  · exact handedOver_releaseEntity hid w
  · exact .refl w

theorem handedOver_setRagdoll {id : Option RagdollId} {o : Outcome .ragdoll K}
    (h : s.setRagdoll w id = .ok o) (hid : id.toList ⊆ ds) (hds : s.ragdolls.members ⊆ ds) :
    w.HandedOver s.id es ds o.world := by
  have hleft : w.HandedOver s.id es ds (s.unseatRagdoll w).2 := handedOver_unseatRagdoll hds w
  cases id with
  | none => exact Except.ok.inj h ▸ hleft
  | some id =>
    simp only [setRagdoll, promoteRagdoll] at h
    split at h
    next => exact Except.ok.inj h ▸ .refl w
    next => exact Except.ok.inj h ▸ .refl w
    next => cases h
    next hg =>
      rw [← Except.ok.inj h]
      have hrec := (unseatRagdoll_granted hg).2.2
      exact hleft.trans ⟨.refl es _, Slots.handed_claim (hid (by simp)) hrec⟩

variable [Scalar K]

theorem handedOver_rescale {id : RagdollId} (hid : id ∈ ds) (scale : K) (w : World K) :
    w.HandedOver s.id es ds (w.rescaleRagdoll scale id) := by
  unfold World.rescaleRagdoll World.actRagdoll
  split
  · exact .refl w
  · exact ⟨.refl es _, Slots.handed_replace hid _⟩

theorem handedOver_admitRagdoll {id : RagdollId} {o : Outcome .ragdoll K}
    (h : s.admitRagdoll w id = .ok o) (hid : id ∈ ds) : w.HandedOver s.id es ds o.world := by
  unfold admitRagdoll at h
  split at h
  next => exact Except.ok.inj h ▸ .refl w
  next => exact Except.ok.inj h ▸ .refl w
  next => exact nomatch h
  next hg =>
    rw [← Except.ok.inj h]
    have hclaim : w.HandedOver s.id es ds { w with ragdolls := w.ragdolls.claim id s.id } :=
      ⟨.refl es _, Slots.handed_claim hid (Roster.admission_eq_granted_iff.1 hg).1⟩
    exact hclaim.trans (handedOver_rescale hid _ _)

theorem handedOver_dismissRagdoll {id : RagdollId} (hid : id ∈ ds) (w : World K) :
    w.HandedOver s.id es ds (s.dismissRagdoll w id).2 := by
  unfold dismissRagdoll
  split
  · exact handedOver_releaseRagdoll hid w
  split
  · exact (handedOver_rescale hid 1 w).trans (handedOver_releaseRagdoll hid _)
  · exact .refl w

theorem handedOver_disband (hes : s.entities.members ⊆ es) (hds : s.ragdolls.members ⊆ ds)
    (w : World K) : w.HandedOver s.id es ds (s.disband w).2 := by
  have hothers : ∀ d ∈ s.ragdolls.others, d ∈ ds := fun d hd =>
    hds (List.mem_append_right _ hd)
  have hprimary : ∀ d ∈ s.ragdolls.primary.toList, d ∈ ds := fun d hd =>
    hds (List.mem_append_left _ hd)
  refine (World.HandedOver.foldl (fun w d hd => ?_) w).trans
    ((World.HandedOver.foldl (fun w d hd => handedOver_releaseRagdoll (hprimary d hd) w) _).trans
      (World.HandedOver.foldl (fun w e he => handedOver_releaseEntity (hes he) w) _))
  exact (handedOver_rescale (hothers d hd) 1 w).trans (handedOver_releaseRagdoll (hothers d hd) _)

/-- **A request hands objects over between nobody and the simulation**: the object it names, or
members of the simulation. -/
theorem handedOver_perform {c : Command K} (h : s.perform w c = .ok (s', w'))
    (hc : c.isRequest = true) : w.HandedOver s.id (c.namedEntities ++ s.entities.members)
      (c.namedRagdolls ++ s.ragdolls.members) w' := by
  cases c with
  | admitEntity id =>
    obtain ⟨o, ho, rfl, rfl⟩ := map_state_eq_ok h
    exact handedOver_admitEntity ho List.mem_cons_self
  | setEntity id =>
    obtain ⟨o, ho, rfl, rfl⟩ := map_state_eq_ok h
    exact handedOver_setEntity ho (List.subset_append_left _ _) (List.subset_append_right _ _)
  | dismissEntity id =>
    obtain ⟨rfl, rfl⟩ := Prod.ext_iff.1 (Except.ok.inj h)
    exact handedOver_dismissEntity List.mem_cons_self w
  | admitRagdoll id =>
    obtain ⟨o, ho, rfl, rfl⟩ := map_state_eq_ok h
    exact handedOver_admitRagdoll ho List.mem_cons_self
  | setRagdoll id =>
    obtain ⟨o, ho, rfl, rfl⟩ := map_state_eq_ok h
    exact handedOver_setRagdoll ho (List.subset_append_left _ _) (List.subset_append_right _ _)
  | dismissRagdoll id =>
    obtain ⟨rfl, rfl⟩ := Prod.ext_iff.1 (Except.ok.inj h)
    exact handedOver_dismissRagdoll List.mem_cons_self w
  | disband =>
    obtain ⟨rfl, rfl⟩ := Prod.ext_iff.1 (Except.ok.inj h)
    exact handedOver_disband (List.Subset.refl _) (List.Subset.refl _) w
  | _ => cases hc

/-- A request that is not answered meets an object that is on record as the simulation's own. -/
theorem owner?_of_perform_eq_error {c : Command K} {v : Violation} (h : s.perform w c = .error v)
    (hc : c.isRequest = true) :
    (∃ e ∈ c.namedEntities, v = .staleOwner .entity e ∧ w.entities.owner? e = some s.id) ∨
      ∃ d ∈ c.namedRagdolls, v = .staleOwner .ragdoll d ∧ w.ragdolls.owner? d = some s.id := by
  cases c with
  | admitEntity id =>
    simp only [perform, admitEntity] at h
    split at h <;> cases h
    next hv =>
      exact .inl ⟨id, List.mem_singleton_self id, rfl,
        Slots.owner?_eq_some_iff.2 (Roster.admission_eq_stale hv).1⟩
  | setEntity id =>
    cases id with
    | none => cases h
    | some id =>
      simp only [perform, setEntity, promoteEntity] at h
      split at h <;> cases h
      next hv =>
        exact .inl ⟨id, List.mem_singleton_self id, rfl,
          Slots.owner?_eq_some_iff.2 (Roster.promotion_eq_stale hv).1⟩
  | admitRagdoll id =>
    simp only [perform, admitRagdoll] at h
    split at h <;> cases h
    next hv =>
      exact .inr ⟨id, List.mem_singleton_self id, rfl,
        Slots.owner?_eq_some_iff.2 (Roster.admission_eq_stale hv).1⟩
  | setRagdoll id =>
    cases id with
    | none => cases h
    | some id =>
      simp only [perform, setRagdoll, promoteRagdoll] at h
      split at h <;> cases h
      next hv =>
        exact .inr ⟨id, List.mem_singleton_self id, rfl,
          Slots.owner?_eq_some_iff.2 (Roster.promotion_eq_stale hv).1⟩
  | dismissEntity id | dismissRagdoll id | disband => cases h
  | _ => cases hc

end Simulation

/-! ### Fleets -/

/-- Worlds and simulations in any number, of which any simulation may be used with any world.
Nothing ties rosters to records. -/
structure Fleet (ι κ K : Type) where
  worlds : ι → World K
  sims : κ → Simulation K

namespace Fleet

variable {ι κ K : Type} [DecidableEq ι] [DecidableEq κ] [Scalar K] {f f' : Fleet ι κ K}

def Distinct (f : Fleet ι κ K) : Prop := Function.Injective fun j => (f.sims j).id

structure Errand (ι κ K : Type) where
  sim : κ
  world : ι
  command : Command K

def act (f : Fleet ι κ K) (e : Errand ι κ K) : Except Violation (Fleet ι κ K) :=
  ((f.sims e.sim).perform (f.worlds e.world) e.command).map fun after =>
    ⟨Function.update f.worlds e.world after.2, Function.update f.sims e.sim after.1⟩

/-- An errand concerns one simulation and one world. -/
theorem act_eq_ok {e : Errand ι κ K} (h : f.act e = .ok f') :
    (f.sims e.sim).perform (f.worlds e.world) e.command =
        .ok (f'.sims e.sim, f'.worlds e.world) ∧
      (∀ v, v ≠ e.world → f'.worlds v = f.worlds v) ∧
      ∀ j, j ≠ e.sim → f'.sims j = f.sims j := by
  unfold act at h
  cases hp : (f.sims e.sim).perform (f.worlds e.world) e.command with
  | error v =>
    rw [hp] at h
    exact nomatch h
  | ok after =>
    rw [hp] at h
    rw [← Except.ok.inj h]
    refine ⟨?_, fun v hv => Function.update_of_ne hv _ _, fun j hj => Function.update_of_ne hj _ _⟩
    simp only [Function.update_self]

theorem act_eq_error {e : Errand ι κ K} {v : Violation} (h : f.act e = .error v) :
    (f.sims e.sim).perform (f.worlds e.world) e.command = .error v := by
  unfold act at h
  cases hp : (f.sims e.sim).perform (f.worlds e.world) e.command with
  | error v' =>
    rw [hp] at h
    exact congrArg Except.error (Except.error.inj h)
  | ok after =>
    rw [hp] at h
    exact nomatch h

/-- A request hands nothing over that another simulation owns, in whichever world. -/
theorem owner?_iff_of_act {e : Errand ι κ K} (hf : f.Distinct) (hc : e.command.isRequest = true)
    (h : f.act e = .ok f') {j : κ} (hj : j ≠ e.sim) (v : ι) :
    (∀ x, (f'.worlds v).entities.owner? x = some (f.sims j).id ↔
        (f.worlds v).entities.owner? x = some (f.sims j).id) ∧
      ∀ x, (f'.worlds v).ragdolls.owner? x = some (f.sims j).id ↔
        (f.worlds v).ragdolls.owner? x = some (f.sims j).id := by
  obtain ⟨hperform, hworlds, -⟩ := act_eq_ok h
  by_cases hv : v = e.world
  · subst hv
    exact (Simulation.handedOver_perform hperform hc).owner?_iff (hf.ne hj)
  · rw [hworlds v hv]
    exact ⟨fun _ => Iff.rfl, fun _ => Iff.rfl⟩

/-- **No simulation touches what another one owns.**  In every fleet, whether or not rosters and
records agree, a request that is answered changes no other world, and in its own one it hands over
objects between nobody and its simulation, and only the object it names and members: so whatever
another simulation owns stays with it, in every world.  A request that is not answered meets an
object on record as the simulation's own. -/
theorem owners_of_request (f : Fleet ι κ K) (hf : f.Distinct) (e : Errand ι κ K)
    (hc : e.command.isRequest = true) :
    (∀ f', f.act e = .ok f' →
      (f.worlds e.world).HandedOver (f.sims e.sim).id
        (e.command.namedEntities ++ (f.sims e.sim).entities.members)
        (e.command.namedRagdolls ++ (f.sims e.sim).ragdolls.members) (f'.worlds e.world) ∧
      (∀ v, v ≠ e.world → f'.worlds v = f.worlds v) ∧
      ∀ j, j ≠ e.sim → ∀ v,
        (∀ x, (f'.worlds v).entities.owner? x = some (f.sims j).id ↔
          (f.worlds v).entities.owner? x = some (f.sims j).id) ∧
        ∀ x, (f'.worlds v).ragdolls.owner? x = some (f.sims j).id ↔
          (f.worlds v).ragdolls.owner? x = some (f.sims j).id) ∧
    ∀ violation, f.act e = .error violation →
      (∃ x ∈ e.command.namedEntities, violation = .staleOwner .entity x ∧
        (f.worlds e.world).entities.owner? x = some (f.sims e.sim).id) ∨
      ∃ x ∈ e.command.namedRagdolls, violation = .staleOwner .ragdoll x ∧
        (f.worlds e.world).ragdolls.owner? x = some (f.sims e.sim).id := by
  refine ⟨fun f' h => ?_, fun violation h => ?_⟩
  · obtain ⟨hperform, hworlds, -⟩ := act_eq_ok h
    exact ⟨Simulation.handedOver_perform hperform hc, hworlds,
      fun j hj v => owner?_iff_of_act hf hc h hj v⟩
  · exact Simulation.owner?_of_perform_eq_error (act_eq_error h) hc

/-- Two worlds with one entity each, of which the second simulation owns the first.  The first
simulation lists the entity of the same number, and nothing tells which world it means. -/
def strays : Fleet Bool Bool Float32 where
  worlds := fun first => ⟨.empty, Arena.empty.push ⟨.scenery [], if first then some ⟨2⟩ else none⟩,
    .empty⟩
  sims := fun first =>
    if first then { Simulation.fresh ⟨1⟩ .standard (.still 0) with entities := ⟨none, [⟨0⟩]⟩ }
    else .fresh ⟨2⟩ .standard (.still 0)

theorem distinct_strays : strays.Distinct := by
  intro i j h
  cases i <;> cases j <;> first | rfl | exact absurd h (by decide)

/-- Dismissing the entity in the world where it is another one's takes nothing from that one. -/
theorem owners_of_request_of_stray : ∃ f', strays.act ⟨true, true, .dismissEntity ⟨0⟩⟩ = .ok f' ∧
    (f'.sims true).entities.contains ⟨0⟩ = false ∧
    (f'.worlds true).entities.owner? ⟨0⟩ = some (strays.sims false).id := by
  have hall := (owners_of_request strays distinct_strays ⟨true, true, .dismissEntity ⟨0⟩⟩ rfl).1
  refine ⟨_, rfl, by decide +kernel, ?_⟩
  obtain ⟨-, -, hother⟩ := hall _ rfl
  exact ((hother false (by decide) true).1 ⟨0⟩).2 (by decide)

/-- Whatever the other simulations ask for, in any worlds and any order, what a simulation owns
stays with it, and it gains nothing. -/
theorem owners_of_requests_by_others {j : κ} {past : List (Errand ι κ K)} (hf : f.Distinct)
    (hpast : ∀ e ∈ past, e.sim ≠ j ∧ e.command.isRequest = true) (h : outcome act f past = .ok f')
    (v : ι) :
    (∀ x, (f'.worlds v).entities.owner? x = some (f.sims j).id ↔
        (f.worlds v).entities.owner? x = some (f.sims j).id) ∧
      ∀ x, (f'.worlds v).ragdolls.owner? x = some (f.sims j).id ↔
        (f.worlds v).ragdolls.owner? x = some (f.sims j).id := by
  -- numbers stay as well, so that simulations can be told apart all along
  suffices hall : (∀ i, (f'.sims i).id = (f.sims i).id) ∧ ∀ v,
      (∀ x, (f'.worlds v).entities.owner? x = some (f.sims j).id ↔
        (f.worlds v).entities.owner? x = some (f.sims j).id) ∧
      ∀ x, (f'.worlds v).ragdolls.owner? x = some (f.sims j).id ↔
        (f.worlds v).ragdolls.owner? x = some (f.sims j).id from hall.2 v
  induction past generalizing f' with
  | nil =>
    rw [← Except.ok.inj h]
    exact ⟨fun _ => rfl, fun _ => ⟨fun _ => Iff.rfl, fun _ => Iff.rfl⟩⟩
  | cons e past ih =>
    obtain ⟨before, hbefore, hlast⟩ := outcome_cons_eq_ok.1 h
    obtain ⟨hids, howners⟩ := ih (fun e he => hpast e (List.mem_cons_of_mem _ he)) hbefore
    obtain ⟨hsim, hrequest⟩ := hpast e List.mem_cons_self
    have hdistinct : before.Distinct := by
      intro i i' he
      refine hf ?_
      simpa only [hids] using he
    obtain ⟨hperform, -, hsims⟩ := act_eq_ok hlast
    refine ⟨fun i => ?_, fun v => ?_⟩
    · by_cases hi : i = e.sim
      · subst hi
        exact (Simulation.perform_lawful hperform).id.trans (hids _)
      · rw [hsims i hi, hids]
    · have hone := owner?_iff_of_act hdistinct hrequest hlast (Ne.symm hsim) v
      rw [hids] at hone
      exact ⟨fun x => (hone.1 x).trans ((howners v).1 x),
        fun x => (hone.2 x).trans ((howners v).2 x)⟩

end Fleet

end RagdollDynamics
