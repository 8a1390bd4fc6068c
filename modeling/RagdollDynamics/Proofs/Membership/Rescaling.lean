import RagdollDynamics.Proofs.Exact.Real
import RagdollDynamics.Proofs.Membership.Handover
import RagdollDynamics.Proofs.Membership.Scene
import RagdollDynamics.Proofs.Membership.Weight

/-!
# Whose mass scales a request changes

A request gives a scale to a ragdoll that nobody owns, when it joins the others, and scale one to
those of the others that it lets go (`Simulation.rescaledOnly_perform`).  The latter happens whoever
is their owner on record.  So what another simulation owns keeps its scale as long as it is not
listed among the others (`Fleet.scales_of_request`).
-/

namespace RagdollDynamics

variable {K : Type}

/-! ### Ragdolls that keep their scales -/

namespace World

variable {w w' w'' : World K} {ids ids' : List RagdollId} {d id : RagdollId}

/-- The mass scales of a ragdoll and of the shapes it lists. -/
def scales? (w : World K) (d : RagdollId) : Option (K × List (Option K)) :=
  (w.outline? d).map fun o => (o.massScale, o.shapes.map w.shapeScale?)

/-- No two ragdolls share a shape. -/
def RagdollsApart (w : World K) : Prop :=
  ∀ d d' o o', w.outline? d = some o → w.outline? d' = some o' → d ≠ d' →
    o.shapes.Disjoint o'.shapes

theorem ragdollsApart_of_size (h : w.ragdolls.size ≤ 1) : w.RagdollsApart := by
  have hfirst : ∀ d o, w.outline? d = some o → d.index = 0 := by
    intro d o ho
    have hknown : ¬w.ragdolls.size ≤ d.index := by
      rw [← Arena.find?_eq_none_iff]
      intro hnone
      rw [outline?, Slots.body?, hnone] at ho
      cases ho
    omega
  intro d d' o o' ho ho' hne
  exact absurd (Handle.index_inj.1 ((hfirst d o ho).trans (hfirst d' o' ho').symm)) hne

/-- Of the ragdolls listed, some have other mass scales, and so have their shapes. -/
structure RescaledOnly (ids : List RagdollId) (w w' : World K) : Prop where
  listed : ∀ d, (w'.outline? d).map Ragdoll.Outline.shapes =
    (w.outline? d).map Ragdoll.Outline.shapes
  ragdoll : ∀ d ∉ ids, w'.outline? d = w.outline? d
  shape : ∀ x, (∀ d ∈ ids, ∀ o, w.outline? d = some o → x ∉ o.shapes) →
    w'.shapeScale? x = w.shapeScale? x

theorem SameScales.rescaledOnly (h : w.SameScales w') (ids : List RagdollId) :
    w.RescaledOnly ids w' :=
  ⟨fun d => by rw [h.outline], fun d _ => congrFun h.outline d, fun x _ => congrFun h.shape x⟩

theorem RescaledOnly.trans (h₁ : w.RescaledOnly ids w') (h₂ : w'.RescaledOnly ids w'') :
    w.RescaledOnly ids w'' := by
  refine ⟨fun d => (h₂.listed d).trans (h₁.listed d),
    fun d hd => (h₂.ragdoll d hd).trans (h₁.ragdoll d hd), fun x hx => ?_⟩
  refine (h₂.shape x fun d hd o' ho' => ?_).trans (h₁.shape x hx)
  have hlisted := h₁.listed d
  rw [ho', Option.map_some] at hlisted
  obtain ⟨o, ho, hshapes⟩ := Option.map_eq_some_iff.1 hlisted.symm
  rw [← hshapes]
  exact hx d hd o ho

theorem RescaledOnly.foldl {α : Type} {f : World K → α → World K} {l : List α}
    (hf : ∀ w : World K, ∀ a ∈ l, w.RescaledOnly ids (f w a)) (w : World K) :
    w.RescaledOnly ids (l.foldl f w) :=
  List.foldlRecOn l f ((SameScales.refl w).rescaledOnly ids) fun v hv a ha => hv.trans (hf v a ha)

theorem RescaledOnly.scales?_eq (h : w.RescaledOnly ids w') (hapart : w.RagdollsApart)
    (hd : d ∉ ids) : w'.scales? d = w.scales? d := by
  unfold scales?
  rw [h.ragdoll d hd]
  cases ho : w.outline? d with
  | none => rfl
  | some o =>
    have hshapes : o.shapes.map w'.shapeScale? = o.shapes.map w.shapeScale? := by
      refine List.map_congr_left fun x hx => h.shape x fun d' hd' o' ho' hx' => ?_
      have hne : d ≠ d' := fun he => hd (he ▸ hd')
      exact hapart d d' o o' ho ho' hne hx hx'
    rw [Option.map_some, Option.map_some, hshapes]

variable [Scalar K]

/-- Shapes that no joints hold together with the ragdoll keep their scales. -/
theorem shapeScale?_rescaleRagdoll_of_not {x : ShapeId} (c : K)
    (h : ∀ o, w.outline? id = some o → o.isJointed = true → x ∉ o.shapes) :
    (w.rescaleRagdoll c id).shapeScale? x = w.shapeScale? x := by
  cases ho : w.outline? id with
  | none => rw [rescaleRagdoll_of_none ho]
  | some o =>
    cases hkind : o.isJointed with
    | true => rw [shapeScale?_rescaleRagdoll ho hkind, if_neg (h o ho hkind)]
    | false =>
      obtain ⟨r, hr, rfl⟩ := Option.map_eq_some_iff.1 ho
      cases r with
      | jointed doll => exact absurd hkind.symm Bool.false_ne_true
      | puppet doll =>
        rw [rescaleRagdoll_of_some hr]
        rfl

theorem rescaledOnly_rescaleRagdoll (hid : id ∈ ids) (c : K) (w : World K) :
    w.RescaledOnly ids (w.rescaleRagdoll c id) := by
  refine ⟨fun d => ?_, fun d hd => ?_, fun x hx => ?_⟩
  · rw [outline?_rescaleRagdoll]
    split
    · rw [Option.map_map]
      rfl
    · rfl
  · have hne : id ≠ d := fun he => hd (he ▸ hid)
    rw [outline?_rescaleRagdoll, if_neg hne]
  · exact shapeScale?_rescaleRagdoll_of_not c fun o ho _ => hx id hid o ho

end World

/-! ### Requests -/

namespace Simulation

variable {s s' : Simulation K} {w w' : World K} {ids : List RagdollId} {c : Command K}

/-- The ragdolls among the others that a request lets go. -/
def letsGo (s : Simulation K) : Command K → List RagdollId
  | .dismissRagdoll id =>
    if s.ragdolls.primary ≠ some id ∧ id ∈ s.ragdolls.others then [id] else []
  | .disband => s.ragdolls.others
  | _ => []

/-- The ragdolls that a request names and nobody owns. -/
def unowned (w : World K) (c : Command K) : List RagdollId :=
  c.namedRagdolls.filter fun d => w.ragdolls.record? d = some none

variable [Scalar K]

theorem rescaledOnly_admitRagdoll {id : RagdollId} {o : Outcome .ragdoll K}
    (h : s.admitRagdoll w id = .ok o) (hid : w.ragdolls.record? id = some none → id ∈ ids) :
    w.RescaledOnly ids o.world := by
  unfold admitRagdoll at h
  split at h
  next => exact Except.ok.inj h ▸ (World.SameScales.refl w).rescaledOnly ids
  next => exact Except.ok.inj h ▸ (World.SameScales.refl w).rescaledOnly ids
  next => exact nomatch h
  next hg =>
    rw [← Except.ok.inj h]
    have hclaim : w.SameScales { w with ragdolls := w.ragdolls.claim id s.id } :=
      World.sameScales_of_body? fun _ => Slots.body?_claim
    exact (hclaim.rescaledOnly ids).trans (World.rescaledOnly_rescaleRagdoll
      (hid (Roster.admission_eq_granted_iff.1 hg).1) _ _)

theorem rescaledOnly_letGo {id : RagdollId} (hid : id ∈ ids) (w : World K) :
    w.RescaledOnly ids (s.releaseRagdoll (w.rescaleRagdoll 1 id) id) :=
  (World.rescaledOnly_rescaleRagdoll hid 1 w).trans
    ((s.sameScales_releaseRagdoll _ id).rescaledOnly ids)

theorem rescaledOnly_dismissRagdoll {id : RagdollId}
    (hid : s.ragdolls.primary ≠ some id → id ∈ s.ragdolls.others → id ∈ ids) (w : World K) :
    w.RescaledOnly ids (s.dismissRagdoll w id).2 := by
  unfold dismissRagdoll
  split
  · exact (s.sameScales_releaseRagdoll w id).rescaledOnly ids
  split
  next hprimary hother => exact rescaledOnly_letGo (hid hprimary hother) w
  next => exact (World.SameScales.refl w).rescaledOnly ids

omit [Scalar K] in
theorem sameScales_releasePrimary (s : Simulation K) (w : World K) :
    w.SameScales (s.entities.members.foldl s.releaseEntity
      (s.ragdolls.primary.toList.foldl s.releaseRagdoll w)) := by
  have hprimary := World.SameScales.foldl s.sameScales_releaseRagdoll s.ragdolls.primary.toList w
  have hentities : ∀ v : World K, v.SameScales (s.entities.members.foldl s.releaseEntity v) :=
    World.SameScales.foldl (f := s.releaseEntity) (fun _ _ => ⟨rfl, rfl⟩) s.entities.members
  exact hprimary.trans (hentities _)

theorem rescaledOnly_disband (hids : s.ragdolls.others ⊆ ids) (w : World K) :
    w.RescaledOnly ids (s.disband w).2 :=
  (World.RescaledOnly.foldl (fun w _ hid => rescaledOnly_letGo (hids hid) w) w).trans
    ((s.sameScales_releasePrimary _).rescaledOnly ids)

/-- **Which scales a request changes**: those of others that it lets go, and those of ragdolls that
it names and nobody owns. -/
theorem rescaledOnly_perform (h : s.perform w c = .ok (s', w')) (hc : c.isRequest = true) :
    w.RescaledOnly (s.letsGo c ++ unowned w c) w' := by
  cases c with
  | admitEntity id | setEntity id | dismissEntity id =>
    exact (entitiesOnly_perform h rfl).sameScales.rescaledOnly _
  | setRagdoll id =>
    obtain ⟨o, ho, rfl, rfl⟩ := map_state_eq_ok h
    exact (sameScales_setRagdoll ho).1.rescaledOnly _
  | admitRagdoll id =>
    obtain ⟨o, ho, rfl, rfl⟩ := map_state_eq_ok h
    refine rescaledOnly_admitRagdoll ho fun hfree => List.mem_append_right _ ?_
    exact List.mem_filter.2 ⟨List.mem_singleton_self id, decide_eq_true hfree⟩
  | dismissRagdoll id =>
    obtain ⟨rfl, rfl⟩ := Prod.ext_iff.1 (Except.ok.inj h)
    refine rescaledOnly_dismissRagdoll (fun hprimary hother => List.mem_append_left _ ?_) w
    rw [letsGo, if_pos ⟨hprimary, hother⟩]
    exact List.mem_singleton_self id
  | disband =>
    obtain ⟨rfl, rfl⟩ := Prod.ext_iff.1 (Except.ok.inj h)
    exact rescaledOnly_disband (List.subset_append_left _ _) w
  | _ => cases hc

/-! ### Ragdolls that are let go -/

/-- A ragdoll has scale one, and so have its shapes if it is jointed. -/
def Level (w : World K) (d : RagdollId) : Prop :=
  ∀ o, w.outline? d = some o → o.massScale = 1 ∧ (o.isJointed = true → ∀ x ∈ o.shapes, ∀ c,
    w.shapeScale? x = some c → c = Scalar.max 1 Scalar.ulp)

variable {d : RagdollId}

theorem level_letGo_self (s : Simulation K) (w : World K) (d : RagdollId) :
    Level (s.releaseRagdoll (w.rescaleRagdoll 1 d) d) d := by
  intro o ho
  have hreleased := s.sameScales_releaseRagdoll (w.rescaleRagdoll 1 d) d
  rw [hreleased.outline, World.outline?_rescaleRagdoll, if_pos rfl] at ho
  obtain ⟨o₀, ho₀, rfl⟩ := Option.map_eq_some_iff.1 ho
  refine ⟨rfl, fun hjointed x hx c hc => ?_⟩
  rw [hreleased.shape, World.shapeScale?_rescaleRagdoll ho₀ hjointed, if_pos hx] at hc
  obtain ⟨-, -, rfl⟩ := Option.map_eq_some_iff.1 hc
  rfl

/-- A ragdoll of scale one keeps it when another one is let go. -/
theorem Level.letGo (h : Level w d) (s : Simulation K) (id : RagdollId) :
    Level (s.releaseRagdoll (w.rescaleRagdoll 1 id) id) d := by
  have hreleased := s.sameScales_releaseRagdoll (w.rescaleRagdoll 1 id) id
  have hscale : ∀ x c, (w.rescaleRagdoll 1 id).shapeScale? x = some c →
      w.shapeScale? x = some c ∨ c = Scalar.max 1 Scalar.ulp := by
    intro x c hc
    by_cases hreach : ∃ o, w.outline? id = some o ∧ o.isJointed = true ∧ x ∈ o.shapes
    · obtain ⟨o, ho, hjointed, hx⟩ := hreach
      rw [World.shapeScale?_rescaleRagdoll ho hjointed, if_pos hx] at hc
      obtain ⟨-, -, rfl⟩ := Option.map_eq_some_iff.1 hc
      exact .inr rfl
    · rw [World.shapeScale?_rescaleRagdoll_of_not 1 fun o ho hjointed hx =>
        hreach ⟨o, ho, hjointed, hx⟩] at hc
      exact .inl hc
  by_cases hsame : id = d
  · subst hsame
    exact level_letGo_self s w id
  intro o ho
  rw [hreleased.outline, World.outline?_rescaleRagdoll, if_neg hsame] at ho
  obtain ⟨hmass, hshapes⟩ := h o ho
  refine ⟨hmass, fun hjointed x hx c hc => ?_⟩
  rw [hreleased.shape] at hc
  exact (hscale x c hc).elim (hshapes hjointed x hx c) fun hone => hone

theorem Level.congr (h : Level w d) (hsame : w.SameScales w') : Level w' d := by
  unfold Level
  rw [hsame.outline, hsame.shape]
  exact h

/-- **What a request lets go has scale one afterwards**, whoever its owner is. -/
theorem level_perform (h : s.perform w c = .ok (s', w')) (hd : d ∈ s.letsGo c) : Level w' d := by
  cases c with
  | dismissRagdoll id =>
    obtain ⟨rfl, rfl⟩ := Prod.ext_iff.1 (Except.ok.inj h)
    rw [letsGo] at hd
    split at hd
    next hlisted =>
      rw [List.mem_singleton.1 hd, dismissRagdoll, if_neg hlisted.1, if_pos hlisted.2]
      exact level_letGo_self s w id
    next => exact absurd hd List.not_mem_nil
  | disband =>
    obtain ⟨rfl, rfl⟩ := Prod.ext_iff.1 (Except.ok.inj h)
    obtain ⟨before, later, hsplit⟩ := List.append_of_mem hd
    refine Level.congr ?_ (s.sameScales_releasePrimary _)
    have hothers : s.ragdolls.others = before ++ d :: later := hsplit
    rw [hothers, List.foldl_append, List.foldl_cons]
    exact List.foldlRecOn (motive := fun v => Level v d) later _ (level_letGo_self s _ d)
      fun v hv id _ => hv.letGo s id
  | _ => cases hd

end Simulation

/-! ### Fleets and scenes -/

/-- In a scene nobody lists a ragdoll of another simulation. -/
theorem Scene.Consistent.owner?_of_mem_others {scene : Scene K} (hs : scene.Consistent)
    {id : SimulationId} {s : Simulation K} (hlive : scene.live id = some s) {d : RagdollId}
    (hd : d ∈ s.ragdolls.others) : scene.world.ragdolls.owner? d = some id := by
  rw [← hs.id_eq id s hlive]
  exact ((hs.settled id s hlive).ragdolls.owner?_iff d).2 (Roster.contains_iff.2 (.inr hd))

namespace Simulation

variable {s s' : Simulation K} {w w' : World K} {c : Command K}

theorem letsGo_subset (s : Simulation K) (c : Command K) : s.letsGo c ⊆ s.ragdolls.others := by
  intro d hd
  cases c with
  | dismissRagdoll id =>
    rw [letsGo] at hd
    split at hd
    next hlisted => exact List.mem_singleton.1 hd ▸ hlisted.2
    next => exact absurd hd List.not_mem_nil
  | disband => exact hd
  | _ => cases hd

/-- What somebody owns keeps its scales, unless the request lets it go. -/
theorem scales?_perform [Scalar K] (h : s.perform w c = .ok (s', w')) (hc : c.isRequest = true)
    (hapart : w.RagdollsApart) {d : RagdollId} {owner : SimulationId}
    (howner : w.ragdolls.owner? d = some owner) (hd : d ∉ s.letsGo c) :
    w'.scales? d = w.scales? d := by
  refine (rescaledOnly_perform h hc).scales?_eq hapart fun hmem => ?_
  rcases List.mem_append.1 hmem with hgone | hfree
  · exact hd hgone
  · have hrecord := of_decide_eq_true (List.mem_filter.1 hfree).2
    rw [Slots.owner?_eq_some_iff.1 howner] at hrecord
    cases hrecord

end Simulation

namespace Fleet

variable {ι κ : Type} [DecidableEq ι] [DecidableEq κ] [Scalar K]

/-- **Whose mass scales a request changes.**  In every fleet, whether or not rosters and records
agree, a ragdoll that a simulation owns, be it another one, keeps its scale, and so do its shapes,
unless the simulation that is asked lists it among its others and lets it go in that world: then it
has scale one.  In the scenes of one world, where no simulation in use is released, nobody ever
lists another one's ragdoll, and no request changes the scale of one. -/
theorem scales_of_request :
    (∀ (f f' : Fleet ι κ K) (e : Errand ι κ K), e.command.isRequest = true → f.act e = .ok f' →
      ∀ v d owner, (f.worlds v).RagdollsApart → (f.worlds v).ragdolls.owner? d = some owner →
        ((v = e.world → d ∉ (f.sims e.sim).letsGo e.command) →
          (f'.worlds v).scales? d = (f.worlds v).scales? d) ∧
        (v = e.world → d ∈ (f.sims e.sim).letsGo e.command →
          Simulation.Level (f'.worlds v) d)) ∧
    ∀ (past : List (Scene.Event K)) (scene : Scene K), outcome Scene.act .empty past = .ok scene →
      ∀ id s c s' w', scene.live id = some s → c.isRequest = true →
        s.perform scene.world c = .ok (s', w') → scene.world.RagdollsApart →
          ∀ d other, scene.world.ragdolls.owner? d = some other → other ≠ id →
            w'.scales? d = scene.world.scales? d := by
  constructor
  · intro f f' e hc h v d owner hapart howner
    obtain ⟨hperform, hworlds, -⟩ := act_eq_ok h
    refine ⟨fun hkept => ?_, fun hv hgone => ?_⟩
    · by_cases hv : v = e.world
      · subst hv
        exact Simulation.scales?_perform hperform hc hapart howner (hkept rfl)
      · rw [hworlds v hv]
    · subst hv
      exact Simulation.level_perform hperform hgone
  · intro past scene hpast id s c s' w' hlive hc hperform hapart d other howner hne
    have hconsistent : scene.Consistent :=
      outcome_invariant Scene.consistent_empty (fun _ _ _ hs h => hs.act h) hpast
    refine Simulation.scales?_perform hperform hc hapart howner fun hgone => hne ?_
    have hown := hconsistent.owner?_of_mem_others hlive (s.letsGo_subset c hgone)
    exact Option.some.inj (howner.symm.trans hown)

noncomputable def paddock : World ℝ :=
  let grounds := (World.empty.addShape (.ofForm (.sphere 1) 1)).2
  (grounds.addRagdoll (.jointed (.atRest [⟨0⟩] grounds.shapes))).2

/-- Two worlds of a ball and its ragdoll, and two simulations without members. -/
noncomputable def paddocks : Fleet Bool Bool ℝ where
  worlds := fun _ => paddock
  sims := fun first => .fresh (if first then ⟨1⟩ else ⟨2⟩) .standard (.still 0)

/-- Each simulation takes the ragdoll of its own world. -/
def takeover : List (Errand Bool Bool ℝ) :=
  [⟨false, false, .admitRagdoll ⟨0⟩⟩, ⟨true, true, .admitRagdoll ⟨0⟩⟩]

noncomputable def grazing : List (Scene.Event ℝ) :=
  [.command ⟨1⟩ (.admitRagdoll ⟨0⟩), .create ⟨2⟩ .standard (.still 0),
    .create ⟨1⟩ .standard (.still 0), .addRagdoll (.puppet ⟨[], 0, 1⟩)]

/-- When the first simulation lets its ragdoll go, the other one keeps its own in scale.  Where there
is one world, neither can disturb the other one. -/
theorem scales_of_request_of_takeover : ∃ before after scene s' w',
    outcome act paddocks takeover = .ok before ∧
    before.act ⟨true, true, .dismissRagdoll ⟨0⟩⟩ = .ok after ∧
    (before.worlds false).ragdolls.owner? ⟨0⟩ = some ⟨2⟩ ∧
    (after.worlds false).scales? ⟨0⟩ = (before.worlds false).scales? ⟨0⟩ ∧
    Simulation.Level (after.worlds true) ⟨0⟩ ∧
    outcome Scene.act .empty grazing = .ok scene ∧
    scene.world.ragdolls.owner? ⟨0⟩ = some ⟨1⟩ ∧
    (Simulation.fresh ⟨2⟩ .standard (.still 0)).perform scene.world .disband = .ok (s', w') ∧
    w'.scales? ⟨0⟩ = scene.world.scales? ⟨0⟩ := by
  obtain ⟨hfleet, hscene⟩ := @scales_of_request ℝ Bool Bool _ _ _
  refine ⟨_, _, _, _, _, rfl, rfl, rfl, ?_, ?_, rfl, rfl, rfl, ?_⟩
  · refine (hfleet _ _ ⟨true, true, .dismissRagdoll ⟨0⟩⟩ rfl rfl false ⟨0⟩ ⟨2⟩ ?_ rfl).1
      fun hv => absurd hv (by decide)
    exact World.ragdollsApart_of_size (Nat.le_refl 1)
  · refine (hfleet _ _ ⟨true, true, .dismissRagdoll ⟨0⟩⟩ rfl rfl true ⟨0⟩ ⟨1⟩ ?_ rfl).2 rfl
      (List.mem_singleton_self _)
    exact World.ragdollsApart_of_size (Nat.le_refl 1)
  · refine hscene grazing _ rfl ⟨2⟩ _ .disband _ _ rfl rfl rfl ?_ ⟨0⟩ ⟨1⟩ rfl (by decide)
    exact World.ragdollsApart_of_size (Nat.le_refl 1)

/-- A simulation that lists a ragdoll of one world gives scale one to the ragdoll of the same number
in another world, which another simulation owns before and afterwards. -/
theorem foreign_ragdoll_rescaled : ∃ before after,
    outcome act paddocks takeover = .ok before ∧
    before.act ⟨true, false, .dismissRagdoll ⟨0⟩⟩ = .ok after ∧
    (before.worlds false).RagdollsApart ∧ (before.sims false).id ≠ (before.sims true).id ∧
    (before.worlds false).ragdolls.owner? ⟨0⟩ = some (before.sims false).id ∧
    (after.worlds false).ragdolls.owner? ⟨0⟩ = some (before.sims false).id ∧
    (before.worlds false).scales? ⟨0⟩ = some (10, [some 10]) ∧
    (after.worlds false).scales? ⟨0⟩ = some (1, [some 1]) := by
  refine ⟨_, _, rfl, rfl, ?_, ?_, rfl, rfl, ?_, ?_⟩
  · exact World.ragdollsApart_of_size (Nat.le_refl 1)
  · decide
  · refine Eq.trans (b := some ((10.0 : ℝ), [some (Scalar.max 10.0 Scalar.ulp)])) rfl ?_
    norm_num [Scalar.max_real, Scalar.ulp]
  · refine Eq.trans (b := some ((1 : ℝ), [some (Scalar.max 1 Scalar.ulp)])) rfl ?_
    norm_num [Scalar.max_real, Scalar.ulp]

end Fleet

end RagdollDynamics
