import RagdollDynamics.Proofs.Frame.Step
import RagdollDynamics.Proofs.Holding
import RagdollDynamics.Proofs.Membership.Requests

/-!
# What a world weighs

Ragdolls and their shapes carry mass scales.  A world weighs by a scale for each ragdoll
(`World.Weighs`) if every ragdoll has that scale and shares it with all its shapes.  Moving things
about changes no scale (`World.sameScales_of_changed`), and commands change the scale of a ragdoll
exactly where it comes to the others of a simulation or leaves them (`Simulation.weighs_perform`).
-/

namespace RagdollDynamics

variable {K : Type}

/-! ### What a world weighs -/

/-- What mass scales depend on in a ragdoll. -/
structure Ragdoll.Outline (K : Type) where
  isJointed : Bool
  shapes : List ShapeId
  massScale : K

def Ragdoll.outline (r : Ragdoll K) : Ragdoll.Outline K := ⟨r.isJointed, r.shapes, r.massScale⟩

namespace World

def shapeScale? (w : World K) (x : ShapeId) : Option K := (w.shapes.find? x).map Shape.massScale

def outline? (w : World K) (d : RagdollId) : Option (Ragdoll.Outline K) :=
  (w.ragdolls.body? d).map Ragdoll.outline

/-- Shapes have the same scales, and so have ragdolls, which list the same shapes. -/
structure SameScales (w w' : World K) : Prop where
  shape : w'.shapeScale? = w.shapeScale?
  outline : w'.outline? = w.outline?

/-- Every ragdoll is jointed and has the scale that `σ` gives it, which is the scale of its shapes,
and no two ragdolls share a shape. -/
structure Weighs (w : World K) (σ : RagdollId → K) : Prop where
  scale : ∀ d o, w.outline? d = some o →
    o.isJointed = true ∧ o.massScale = σ d ∧ ∀ x ∈ o.shapes, w.shapeScale? x = some (σ d)
  apart : ∀ d d' o o', w.outline? d = some o → w.outline? d' = some o' → d ≠ d' →
    o.shapes.Disjoint o'.shapes

variable {w w' w'' : World K} {σ : RagdollId → K}

@[simp] theorem SameScales.refl (w : World K) : w.SameScales w := ⟨rfl, rfl⟩

theorem SameScales.trans (h₁ : w.SameScales w') (h₂ : w'.SameScales w'') : w.SameScales w'' :=
  ⟨h₂.shape.trans h₁.shape, h₂.outline.trans h₁.outline⟩

theorem SameScales.foldl {α : Type} {f : World K → α → World K} (hf : ∀ w a, SameScales w (f w a))
    (l : List α) (w : World K) : w.SameScales (l.foldl f w) :=
  List.foldlRecOn l f (SameScales.refl w) fun v hv a _ => hv.trans (hf v a)

/-- Shapes may come to a world. -/
theorem Weighs.extend (hw : w.Weighs σ) (houtline : w'.outline? = w.outline?)
    (hshape : ∀ x c, w.shapeScale? x = some c → w'.shapeScale? x = some c) : w'.Weighs σ := by
  refine ⟨fun d o ho => ?_, houtline ▸ hw.apart⟩
  obtain ⟨hjointed, hmass, hscale⟩ := hw.scale d o (houtline ▸ ho)
  exact ⟨hjointed, hmass, fun x hx => hshape x _ (hscale x hx)⟩

theorem Weighs.congr (hw : w.Weighs σ) (h : w.SameScales w') : w'.Weighs σ :=
  hw.extend h.outline fun x _ hx => (congrFun h.shape x).trans hx

/-- Owners do not weigh. -/
theorem sameScales_of_body? {slots : Slots .ragdoll (Ragdoll K)}
    (h : ∀ d, slots.body? d = w.ragdolls.body? d) : w.SameScales { w with ragdolls := slots } :=
  ⟨rfl, funext fun d => congrArg (Option.map Ragdoll.outline) (h d)⟩

/-! ### What comes to a world -/

theorem Weighs.addShape (hw : w.Weighs σ) (s : Shape K) : (w.addShape s).2.Weighs σ := by
  refine hw.extend rfl fun x c hx => ?_
  obtain ⟨t, ht, rfl⟩ := Option.map_eq_some_iff.1 hx
  have hold : x.index ≠ w.shapes.size := by
    intro he
    have hnone := (Arena.find?_eq_none_iff w.shapes x).2 (Nat.le_of_eq he.symm)
    exact nomatch hnone.symm.trans ht
  rw [shapeScale?, World.addShape, Arena.find?_push, if_neg hold, ht, Option.map_some]

theorem massScale_markHeld {holder : EntityId} {ids : List ShapeId} {shapes shapes' : Shapes K}
    (h : markHeld holder ids shapes = .ok shapes') (x : ShapeId) :
    (shapes'.find? x).map Shape.massScale = (shapes.find? x).map Shape.massScale := by
  rw [(markHeld_eq_ok h).2.2 x]
  split
  · rw [Option.map_map]
    rfl
  · rfl

theorem Weighs.addEntity (hw : w.Weighs σ) {e : Entity K} {added : EntityId × World K}
    (h : w.addEntity e = .ok added) : added.2.Weighs σ := by
  obtain ⟨shapes, hmark, rfl⟩ := World.addEntity_eq_ok h
  exact hw.congr ⟨funext fun x => massScale_markHeld hmark x, rfl⟩

variable [Scalar K]

/-- A ragdoll as it may come into a world: jointed, of scale one, as all its shapes are, which exist
and belong to no ragdoll yet. -/
structure Welcomes (w : World K) (r : Ragdoll K) : Prop where
  jointed : r.isJointed = true
  massScale : r.massScale = 1
  shape : ∀ x ∈ r.shapes, w.shapeScale? x = some 1
  apart : ∀ d o, w.outline? d = some o → o.shapes.Disjoint r.shapes

theorem Weighs.addRagdoll (hw : w.Weighs σ) {r : Ragdoll K} (hr : w.Welcomes r)
    (hnew : ∀ d : RagdollId, d.index = w.ragdolls.size → σ d = 1) :
    (w.addRagdoll r).2.Weighs σ := by
  have houtline : ∀ d, (w.addRagdoll r).2.outline? d =
      if d.index = w.ragdolls.size then some r.outline else w.outline? d := by
    intro d
    rw [outline?, World.addRagdoll, Slots.body?, Arena.find?_push]
    split <;> rfl
  refine ⟨fun d o ho => ?_, fun d₁ d₂ o₁ o₂ h₁ h₂ hne => ?_⟩
  · rw [houtline] at ho
    split at ho
    next hd =>
      obtain rfl := Option.some.inj ho
      rw [hnew d hd]
      exact ⟨hr.jointed, hr.massScale, hr.shape⟩
    next => exact hw.scale d o ho
  · rw [houtline] at h₁ h₂
    split at h₁ <;> split at h₂
    next hd₁ hd₂ => exact absurd (Handle.index_inj.1 (hd₁.trans hd₂.symm)) hne
    next =>
      obtain rfl := Option.some.inj h₁
      exact (hr.apart d₂ o₂ h₂).symm
    next =>
      obtain rfl := Option.some.inj h₂
      exact hr.apart d₁ o₁ h₁
    next => exact hw.apart d₁ d₂ o₁ o₂ h₁ h₂ hne

/-! ### Changing the scale of one ragdoll -/

/-- Shapes and ragdolls take their scales along wherever they move. -/
theorem sameScales_of_changed {F : Footprint} (h : F.Changed w w') : w.SameScales w' := by
  constructor
  · exact funext fun x => h.shapes.map_find? (fun _ _ h => congrArg Shape.massScale h.build) x
  · funext d
    have houtline := h.ragdolls.map_find? (v := Ragdoll.outline ∘ Slot.body) (fun s s' h => by
      rw [Function.comp_apply, Ragdoll.outline, h.body.isJointed, h.body.shapes, h.body.massScale]
      rfl) d
    simpa only [outline?, Slots.body?, Option.map_map] using houtline

theorem rescaleRagdoll_of_none {d : RagdollId} (h : w.outline? d = none) (c : K) :
    w.rescaleRagdoll c d = w := by
  rw [rescaleRagdoll, actRagdoll, Option.map_eq_none_iff.1 h]

theorem rescaleRagdoll_of_some {d : RagdollId} {r : Ragdoll K} (h : w.ragdolls.body? d = some r)
    (c : K) : w.rescaleRagdoll c d = { w with
      ragdolls := w.ragdolls.replace d (r.rescale c w.shapes).1
      shapes := (r.rescale c w.shapes).2 } := by
  rw [rescaleRagdoll, actRagdoll, h]

theorem outline?_rescaleRagdoll (w : World K) (c : K) (d d' : RagdollId) :
    (w.rescaleRagdoll c d).outline? d' =
      if d = d' then (w.outline? d').map fun o => { o with massScale := c }
      else w.outline? d' := by
  have houtline : ∀ (r : Ragdoll K) (shapes : Shapes K),
      (r.rescale c shapes).1.outline = { r.outline with massScale := c } := by
    intro r shapes
    cases r <;> rfl
  cases ho : w.outline? d with
  | none =>
    rw [rescaleRagdoll_of_none ho]
    split
    next h => rw [← h, ho, Option.map_none]
    next => rfl
  | some o =>
    obtain ⟨r, hr, rfl⟩ := Option.map_eq_some_iff.1 ho
    obtain ⟨slot, hslot, rfl⟩ := Option.map_eq_some_iff.1 hr
    simp only [rescaleRagdoll_of_some hr, outline?, Slots.body?, Slots.replace, Arena.find?_modify]
    split
    next h =>
      subst h
      simp only [hslot, Option.map_some, houtline]
    next => rfl

theorem shapeScale?_rescaleRagdoll {d : RagdollId} {o : Ragdoll.Outline K}
    (ho : w.outline? d = some o) (hjointed : o.isJointed = true) (c : K) (x : ShapeId) :
    (w.rescaleRagdoll c d).shapeScale? x =
      if x ∈ o.shapes then (w.shapeScale? x).map fun _ => Scalar.max c Scalar.ulp
      else w.shapeScale? x := by
  obtain ⟨r, hr, rfl⟩ := Option.map_eq_some_iff.1 ho
  cases r with
  | puppet d => exact absurd hjointed Bool.false_ne_true
  | jointed doll =>
    have hfind := Arena.find?_modifyAll (f := fun s : Shape K => s.rescale c) (fun _ => rfl)
      doll.shapes w.shapes x
    have hscale : ∀ s : Option (Shape K), (s.map fun s => s.rescale c).map Shape.massScale =
        (s.map Shape.massScale).map fun _ => Scalar.max c Scalar.ulp := by
      intro s
      cases s <;> rfl
    rw [shapeScale?, rescaleRagdoll_of_some hr]
    simp only [Ragdoll.rescale, JointedDoll.rescale, hfind]
    split
    next hx => exact (hscale _).trans (if_pos hx).symm
    next hx => exact (if_neg hx).symm

/-- A ragdoll takes another scale, and its shapes do with it. -/
theorem Weighs.rescale (hw : w.Weighs σ) (d : RagdollId) {c : K} (hc : Scalar.ulp ≤ c) :
    (w.rescaleRagdoll c d).Weighs (Function.update σ d c) := by
  have hmax : Scalar.max c Scalar.ulp = c := if_pos hc
  cases ho : w.outline? d with
  | none =>
    rw [rescaleRagdoll_of_none ho]
    refine ⟨fun d' o' ho' => ?_, hw.apart⟩
    have hne : d' ≠ d := by
      rintro rfl
      exact nomatch ho.symm.trans ho'
    rw [Function.update_of_ne hne]
    exact hw.scale d' o' ho'
  | some o =>
    obtain ⟨hjointed, -, hscale⟩ := hw.scale d o ho
    have hshape := shapeScale?_rescaleRagdoll ho hjointed c
    have hlists : ∀ {d' o'}, (w.rescaleRagdoll c d).outline? d' = some o' → ∃ o₀,
        w.outline? d' = some o₀ ∧ o'.isJointed = o₀.isJointed ∧ o'.shapes = o₀.shapes ∧
          o'.massScale = if d = d' then c else o₀.massScale := by
      intro d' o' ho'
      rw [outline?_rescaleRagdoll] at ho'
      split at ho'
      next h =>
        obtain ⟨o₀, ho₀, rfl⟩ := Option.map_eq_some_iff.1 ho'
        exact ⟨o₀, ho₀, rfl, rfl, (if_pos h).symm⟩
      next h => exact ⟨o', ho', rfl, rfl, (if_neg h).symm⟩
    refine ⟨fun d' o' ho' => ?_, fun d₁ d₂ o₁ o₂ h₁ h₂ hne => ?_⟩
    · obtain ⟨o₀, ho₀, hkind, hsame, hmass⟩ := hlists ho'
      obtain ⟨hjointed₀, hmass₀, hscale₀⟩ := hw.scale d' o₀ ho₀
      rw [hkind, hmass, hsame]
      by_cases h : d = d'
      · subst h
        obtain rfl : o = o₀ := Option.some.inj (ho.symm.trans ho₀)
        rw [if_pos rfl, Function.update_self]
        refine ⟨hjointed₀, rfl, fun x hx => ?_⟩
        rw [hshape, if_pos hx, hscale x hx, Option.map_some, hmax]
      · rw [if_neg h, Function.update_of_ne (Ne.symm h)]
        refine ⟨hjointed₀, hmass₀, fun x hx => ?_⟩
        rw [hshape, if_neg (hw.apart d' d o₀ o ho₀ ho (Ne.symm h) hx), hscale₀ x hx]
    · obtain ⟨o₁', ho₁', -, hsame₁, -⟩ := hlists h₁
      obtain ⟨o₂', ho₂', -, hsame₂, -⟩ := hlists h₂
      rw [hsame₁, hsame₂]
      exact hw.apart d₁ d₂ o₁' o₂' ho₁' ho₂' hne

end World

/-! ### Commands -/

namespace Simulation

variable {s s' : Simulation K} {w w' : World K} {σ : RagdollId → K}

theorem sameScales_releaseRagdoll (s : Simulation K) (w : World K) (id : RagdollId) :
    w.SameScales (s.releaseRagdoll w id) :=
  World.sameScales_of_body? fun _ => Slots.body?_release

theorem sameScales_unseatRagdoll (s : Simulation K) (w : World K) :
    w.SameScales (s.unseatRagdoll w).2 ∧
      (s.unseatRagdoll w).1.ragdolls.others = s.ragdolls.others := by
  unfold unseatRagdoll
  split
  · exact ⟨.refl w, rfl⟩
  · exact ⟨s.sameScales_releaseRagdoll w _, rfl⟩

theorem sameScales_setRagdoll {id : Option RagdollId} {o : Outcome .ragdoll K}
    (h : s.setRagdoll w id = .ok o) :
    w.SameScales o.world ∧ o.sim.ragdolls.others = s.ragdolls.others := by
  have hunseat := s.sameScales_unseatRagdoll w
  cases id with
  | none => exact Except.ok.inj h ▸ hunseat
  | some id =>
    simp only [setRagdoll, promoteRagdoll] at h
    split at h
    · exact Except.ok.inj h ▸ ⟨.refl w, rfl⟩
    · exact Except.ok.inj h ▸ ⟨.refl w, rfl⟩
    · cases h
    · rw [← Except.ok.inj h]
      exact ⟨hunseat.1.trans (World.sameScales_of_body? fun _ => Slots.body?_claim), hunseat.2⟩

theorem EntitiesOnly.sameScales (h : s.EntitiesOnly w s' w') : w.SameScales w' := by
  rw [h.world]
  exact ⟨rfl, rfl⟩

/-- The mass scales after ragdolls came to the others or left them. -/
def rescaled [Scalar K] (s s' : Simulation K) (σ : RagdollId → K) (d : RagdollId) : K :=
  if d ∈ s.ragdolls.others then if d ∈ s'.ragdolls.others then σ d else 1
  else if d ∈ s'.ragdolls.others then s.config.otherMassScale else σ d

variable [Scalar K]

theorem rescaled_of_others_eq (h : s'.ragdolls.others = s.ragdolls.others) :
    s.rescaled s' σ = σ := by
  funext d
  unfold rescaled
  rw [h]
  split <;> rfl

theorem weighs_of_sameScales (hw : w.Weighs σ) (h : w.SameScales w')
    (hothers : s'.ragdolls.others = s.ragdolls.others) : w'.Weighs (s.rescaled s' σ) := by
  rw [rescaled_of_others_eq hothers]
  exact hw.congr h

theorem weighs_admitRagdoll {id : RagdollId} {o : Outcome .ragdoll K} (hw : w.Weighs σ)
    (hscale : Scalar.ulp ≤ s.config.otherMassScale) (h : s.admitRagdoll w id = .ok o) :
    o.world.Weighs (s.rescaled o.sim σ) := by
  unfold admitRagdoll at h
  split at h
  · exact Except.ok.inj h ▸ weighs_of_sameScales hw (.refl w) rfl
  · exact Except.ok.inj h ▸ weighs_of_sameScales hw (.refl w) rfl
  · exact nomatch h
  next hg =>
    obtain ⟨-, hnot, -⟩ := Roster.admission_eq_granted_iff.1 hg
    have hnew : id ∉ s.ragdolls.others := (Roster.contains_eq_false_iff.1 hnot).2
    have hσ : s.rescaled { s with ragdolls := s.ragdolls.join id } σ =
        Function.update σ id s.config.otherMassScale := by
      funext d
      by_cases hd : d = id
      · subst hd
        simp [rescaled, Roster.join, hnew]
      · simp [rescaled, Roster.join, hd]
        split <;> rfl
    rw [← Except.ok.inj h]
    simp only [hσ]
    exact (hw.congr (World.sameScales_of_body? fun _ => Slots.body?_claim)).rescale id hscale

theorem weighs_dismissRagdoll (hw : w.Weighs σ) (hone : (Scalar.ulp : K) ≤ 1)
    (hnodup : s.ragdolls.others.Nodup) (id : RagdollId) :
    (s.dismissRagdoll w id).2.Weighs (s.rescaled (s.dismissRagdoll w id).1 σ) := by
  unfold dismissRagdoll
  split
  next hp =>
    refine weighs_of_sameScales hw (s.sameScales_releaseRagdoll w id) ?_
    rw [Roster.leave, if_pos hp]
    rfl
  split
  next hp hmem =>
    have hleft : (s.ragdolls.leave id).others = swapErase id s.ragdolls.others := by
      rw [Roster.leave, if_neg hp]
    have hσ : s.rescaled { s with ragdolls := s.ragdolls.leave id } σ =
        Function.update σ id 1 := by
      have hmem' : ∀ d, d ∈ swapErase id s.ragdolls.others ↔ d ≠ id ∧ d ∈ s.ragdolls.others :=
        fun d => (swapErase_perm id _).mem_iff.trans hnodup.mem_erase_iff
      funext d
      simp only [rescaled, hleft, hmem']
      by_cases hd : d = id
      · subst hd
        simp [hmem]
      · simp only [hd, ne_eq, not_false_eq_true, true_and, Function.update_of_ne]
        split <;> rfl
    simp only [hσ]
    exact (hw.rescale id hone).congr (s.sameScales_releaseRagdoll _ id)
  next => exact weighs_of_sameScales hw (.refl w) rfl

theorem weighs_releaseOthers (hone : (Scalar.ulp : K) ≤ 1) : ∀ (l : List RagdollId) {w : World K}
    {σ : RagdollId → K}, w.Weighs σ →
      (l.foldl (fun w id => s.releaseRagdoll (w.rescaleRagdoll 1 id) id) w).Weighs
        fun d => if d ∈ l then 1 else σ d
  | [], _, _, hw => by simpa using hw
  | id :: l, w, σ, hw => by
    have hfirst := (hw.rescale id hone).congr (s.sameScales_releaseRagdoll _ id)
    have hrest := weighs_releaseOthers hone l hfirst
    have hσ : (fun d => if d ∈ l then 1 else Function.update σ id 1 d) =
        fun d => if d ∈ id :: l then (1 : K) else σ d := by
      funext d
      by_cases hd : d = id
      · subst hd
        simp
      · simp [hd]
    exact hσ ▸ hrest

theorem weighs_disband (hw : w.Weighs σ) (hone : (Scalar.ulp : K) ≤ 1) :
    (s.disband w).2.Weighs (s.rescaled (s.disband w).1 σ) := by
  have hσ : s.rescaled (s.disband w).1 σ = fun d => if d ∈ s.ragdolls.others then 1 else σ d := by
    funext d
    simp [rescaled, disband, Roster.empty]
  rw [hσ]
  have hothers := weighs_releaseOthers (s := s) hone s.ragdolls.others hw
  have hprimary := World.SameScales.foldl s.sameScales_releaseRagdoll s.ragdolls.primary.toList
    (s.ragdolls.others.foldl (fun w id => s.releaseRagdoll (w.rescaleRagdoll 1 id) id) w)
  have hentities : ∀ v : World K, v.SameScales (s.entities.members.foldl s.releaseEntity v) :=
    World.SameScales.foldl (f := s.releaseEntity) (fun _ _ => ⟨rfl, rfl⟩) s.entities.members
  exact (hothers.congr hprimary).congr (hentities _)

/-- **What a command does to mass scales.**  A ragdoll that comes to the others takes their scale,
one that leaves them gets scale one back, and every other ragdoll keeps the scale it has. -/
theorem weighs_perform {c : Command K} (h : s.perform w c = .ok (s', w')) (hw : w.Weighs σ)
    (hone : (Scalar.ulp : K) ≤ 1) (hscale : Scalar.ulp ≤ s.config.otherMassScale)
    (hnodup : s.ragdolls.others.Nodup) : w'.Weighs (s.rescaled s' σ) := by
  cases c with
  | admitEntity id | setEntity id | dismissEntity id =>
    have hrequest := entitiesOnly_perform h rfl
    exact weighs_of_sameScales hw hrequest.sameScales (by rw [hrequest.sim])
  | setRagdoll id =>
    obtain ⟨o, ho, rfl, rfl⟩ := map_state_eq_ok h
    obtain ⟨hworld, hothers⟩ := sameScales_setRagdoll ho
    exact weighs_of_sameScales hw hworld hothers
  | admitRagdoll id =>
    obtain ⟨o, ho, rfl, rfl⟩ := map_state_eq_ok h
    exact weighs_admitRagdoll hw hscale ho
  | dismissRagdoll id =>
    obtain ⟨rfl, rfl⟩ := Prod.ext_iff.1 (Except.ok.inj h)
    exact weighs_dismissRagdoll hw hone hnodup id
  | disband =>
    obtain ⟨rfl, rfl⟩ := Prod.ext_iff.1 (Except.ok.inj h)
    exact weighs_disband hw hone
  | step order =>
    obtain ⟨rfl, rfl⟩ := Prod.ext_iff.1 (Except.ok.inj h)
    exact weighs_of_sameScales hw (World.sameScales_of_changed (s.changed_step w order))
      (by rw [(s.alike_step w order).1.ragdolls])
  | enforceContacts =>
    obtain ⟨rfl, rfl⟩ := Prod.ext_iff.1 (Except.ok.inj h)
    have hinside := s.inside_footprint w
    exact weighs_of_sameScales hw (World.sameScales_of_changed
      ((confined_enforceContacts hinside).changed w (s.covers_footprint w))) rfl
  | rubContacts =>
    obtain ⟨rfl, rfl⟩ := Prod.ext_iff.1 (Except.ok.inj h)
    have hinside := s.inside_footprint w
    exact weighs_of_sameScales hw (World.sameScales_of_changed
      ((confined_rubContacts hinside).changed w (s.covers_footprint w))) rfl
  | resolve =>
    obtain ⟨rfl, rfl⟩ := Prod.ext_iff.1 (Except.ok.inj h)
    have hanswered := Collision.changedOn_resolveAll s.collisions.toList w.shapes
    exact weighs_of_sameScales hw (World.sameScales_of_changed (F := ⟨_, .empty, .empty⟩)
      ⟨hanswered, .refl _ _, .refl _ _⟩) rfl
  | detect | noteContacts | forgetOld | forgetEntity id | forgetShape id | moveOrigin origin =>
    obtain ⟨rfl, rfl⟩ := Prod.ext_iff.1 (Except.ok.inj h)
    exact weighs_of_sameScales hw (.refl w) rfl

end Simulation

end RagdollDynamics
