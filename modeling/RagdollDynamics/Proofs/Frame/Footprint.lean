import RagdollDynamics.Proofs.Contact.Changes
import RagdollDynamics.Proofs.Frame.Contacts

/-!
# Footprints

The footprint of a simulation: the objects of a world that its phases look at or change.  A
footprint that covers everything its members refer to is a region of the world
(`Footprint.region`), and whatever a phase does to shapes, to an entity or to a ragdoll of the
footprint is confined to it.
-/

namespace RagdollDynamics

variable {K : Type} [Scalar K]

/-! ### What is kept of objects -/

/-- The owner stays, and the object as far as `T` keeps it. -/
structure Slot.Kept {α : Type} (T : α → α → Prop) (s s' : Slot α) : Prop where
  owner : s'.owner = s.owner
  body : T s.body s'.body

instance {α : Type} {T : α → α → Prop} [Std.Refl T] : Std.Refl (Slot.Kept T) :=
  ⟨fun s => ⟨rfl, Std.Refl.refl s.body⟩⟩

instance {α : Type} {T : α → α → Prop} [IsTrans α T] : IsTrans (Slot α) (Slot.Kept T) where
  trans _ _ _ h₁ h₂ := ⟨h₂.owner.trans h₁.owner, IsTrans.trans _ _ _ h₁.body h₂.body⟩

/-- Motion may differ, but not the shapes that the entity lists. -/
def Entity.Kept (e e' : Entity K) : Prop := e'.shapes = e.shapes

instance : Std.Refl (Entity.Kept (K := K)) := ⟨fun _ => rfl⟩

instance : IsTrans (Entity K) Entity.Kept := ⟨fun _ _ _ h₁ h₂ => Eq.trans h₂ h₁⟩

instance : Std.Refl (Ragdoll.Kept (K := K)) := ⟨Ragdoll.Kept.refl⟩

instance : IsTrans (Ragdoll K) Ragdoll.Kept where
  trans _ _ _ h₁ h₂ := ⟨h₂.shapes.trans h₁.shapes, h₂.joints.trans h₁.joints,
    h₂.massScale.trans h₁.massScale, h₂.isJointed.trans h₁.isJointed⟩

/-! ### Footprints -/

/-- Shapes and members of a simulation.  Shapes, ragdolls and the entities besides the primary one
may change, and the primary entity is only looked at. -/
structure Footprint where
  shapes : List ShapeId
  entities : Roster .entity
  ragdolls : Roster .ragdoll

theorem Roster.mem_members_of_mem_others {k : HandleKind} {r : Roster k} {id : Handle k}
    (h : id ∈ r.others) : id ∈ r.members := List.mem_append_right _ h

theorem Slots.body?_congr {k : HandleKind} {α : Type} {slots slots' : Slots k α} {id : Handle k}
    (h : slots.find? id = slots'.find? id) : slots'.body? id = slots.body? id := by
  rw [Slots.body?, Slots.body?, h]

/-- Another object in the place of one changes that place only, and not its owner. -/
theorem Slots.changedOn_replace {k : HandleKind} {α : Type} {T : α → α → Prop} [Std.Refl T]
    {slots : Slots k α} {ids : List (Handle k)} {id : Handle k} {x y : α} (hid : id ∈ ids)
    (hx : slots.body? id = some x) (hxy : T x y) :
    slots.ChangedOn (Slot.Kept T) ids (slots.replace id y) := by
  refine Arena.changedOn_modify hid fun slot hslot => ?_
  rw [Slots.body?, hslot] at hx
  exact ⟨rfl, Option.some.inj hx ▸ hxy⟩

namespace Footprint

/-- Every shape that a member lists or that its joints name is among the shapes. -/
structure Covers (F : Footprint) (w : World K) : Prop where
  entity : ∀ id ∈ F.entities.members, w.entityShapes id ⊆ F.shapes
  ragdoll : ∀ id ∈ F.ragdolls.members, ∀ r, w.ragdolls.body? id = some r → r.reach ⊆ F.shapes

/-- Shapes and members keep what they are made of, and nothing else changes at all. -/
structure Changed (F : Footprint) (w w' : World K) : Prop where
  shapes : w.shapes.ChangedOn Shape.Kept F.shapes w'.shapes
  entities : w.entities.ChangedOn (Slot.Kept Entity.Kept) F.entities.others w'.entities
  ragdolls : w.ragdolls.ChangedOn (Slot.Kept Ragdoll.Kept) F.ragdolls.members w'.ragdolls

structure Agree (F : Footprint) (w w' : World K) : Prop where
  shapes : w.shapes.AgreeOn F.shapes w'.shapes
  entities : w.entities.AgreeOn F.entities.members w'.entities
  ragdolls : w.ragdolls.AgreeOn F.ragdolls.members w'.ragdolls

variable {F : Footprint} {w w' : World K}

theorem Changed.refl (F : Footprint) (w : World K) : F.Changed w w :=
  ⟨.refl _ _, .refl _ _, .refl _ _⟩

omit [Scalar K] in
theorem Agree.equivalence (F : Footprint) : Equivalence (F.Agree (K := K)) where
  refl := fun _ => ⟨fun _ _ => rfl, fun _ _ => rfl, fun _ _ => rfl⟩
  symm := fun h => ⟨(Arena.equivalence_agreeOn _).symm h.shapes,
    (Arena.equivalence_agreeOn _).symm h.entities, (Arena.equivalence_agreeOn _).symm h.ragdolls⟩
  trans := fun h₁ h₂ => ⟨(Arena.equivalence_agreeOn _).trans h₁.shapes h₂.shapes,
    (Arena.equivalence_agreeOn _).trans h₁.entities h₂.entities,
    (Arena.equivalence_agreeOn _).trans h₁.ragdolls h₂.ragdolls⟩

omit [Scalar K] in
theorem Agree.entityShapes (h : F.Agree w w') {id : EntityId} (hid : id ∈ F.entities.members) :
    w'.entityShapes id = w.entityShapes id := by
  rw [World.entityShapes, World.entityShapes, Slots.body?_congr (h.entities id hid)]

omit [Scalar K] in
theorem Covers.of_agree (hw : F.Covers w) (h : F.Agree w w') : F.Covers w' where
  entity := fun id hid => h.entityShapes hid ▸ hw.entity id hid
  ragdoll := fun id hid r hr =>
    hw.ragdoll id hid r ((Slots.body?_congr (h.ragdolls id hid)).symm.trans hr)

/-- The shapes that an entity lists stay, in whichever way it has moved. -/
theorem Changed.entityShapes (h : F.Changed w w') (id : EntityId) :
    w'.entityShapes id = w.entityShapes id := by
  have hlists := h.entities.map_find? (v := fun slot => slot.body.shapes) (fun _ _ h => h.body) id
  simp only [World.entityShapes, Slots.body?, Option.map_map]
  exact congrArg (fun o => o.getD []) hlists

theorem Covers.of_changed (hw : F.Covers w) (h : F.Changed w w') : F.Covers w' := by
  refine ⟨fun id hid => h.entityShapes id ▸ hw.entity id hid, fun id hid r' hr' => ?_⟩
  obtain ⟨slot', hslot', rfl⟩ := Option.map_eq_some_iff.1 hr'
  obtain ⟨slot, hslot, hkept⟩ := h.ragdolls.exists_of_find? hslot'
  rw [hkept.body.reach]
  exact hw.ragdoll id hid slot.body (by rw [Slots.body?, hslot]; rfl)

def region (F : Footprint) : Region (World K) where
  Closed := F.Covers
  Changed := F.Changed
  Agree := F.Agree
  changed_refl := .refl F
  changed_trans := fun h₁ h₂ => ⟨h₁.shapes.trans h₂.shapes, h₁.entities.trans h₂.entities,
    h₁.ragdolls.trans h₂.ragdolls⟩
  agree := Agree.equivalence F
  closed_of_changed := Covers.of_changed
  closed_of_agree := Covers.of_agree

/-! ### What is confined to a footprint -/

omit [Scalar K] in
theorem Covers.shapes_subset (hw : F.Covers w) {id : EntityId} (hid : id ∈ F.entities.members)
    {e : Entity K} (he : w.entities.body? id = some e) : e.shapes ⊆ F.shapes := by
  have h := hw.entity id hid
  rwa [World.entityShapes, he] at h

theorem confined_onShapes {α : Type} {f : Shapes K → α × Shapes K}
    (hf : Confined (Shapes.region F.shapes) f) :
    Confined F.region fun w : World K => ((f w.shapes).1, { w with shapes := (f w.shapes).2 }) where
  changed w _ := ⟨hf.changed w.shapes trivial, .refl _ _, .refl _ _⟩
  agree w w' _ h :=
    have hshapes := hf.agree w.shapes w'.shapes trivial h.shapes
    ⟨hshapes.1, hshapes.2, h.entities, h.ragdolls⟩

theorem confined_actEntity {id : EntityId} (hid : id ∈ F.entities.others)
    {f : Entity K → Shapes K → Entity K × Shapes K}
    (hf : ∀ e, e.shapes ⊆ F.shapes → Confined (Shapes.region F.shapes) (f e))
    (hkept : ∀ e shapes, Entity.Kept e (f e shapes).1) :
    Confined F.region fun w => ((), w.actEntity id f) := by
  refine .of_cases fun w w' hw h => ?_
  have hmem : id ∈ F.entities.members := Roster.mem_members_of_mem_others hid
  simp only [World.actEntity, Slots.body?_congr (h.entities id hmem)]
  cases he : w.entities.body? id with
  | none => exact ⟨.refl F w, trivial, h⟩
  | some e =>
    have hact := hf e (hw.shapes_subset hmem he)
    obtain ⟨hanswer, hleft⟩ := hact.agree w.shapes w'.shapes trivial h.shapes
    have hreplace : (w.entities.replace id (f e w.shapes).1).AgreeOn F.entities.members
        (w'.entities.replace id (f e w'.shapes).1) := by
      rw [← hanswer]
      exact h.entities.modify id _
    have hentities := Slots.changedOn_replace hid he (hkept e w.shapes)
    exact ⟨⟨hact.changed w.shapes trivial, hentities, .refl _ _⟩, trivial, hleft, hreplace,
      h.ragdolls⟩

theorem confined_actRagdoll {id : RagdollId} (hid : id ∈ F.ragdolls.members)
    {f : Ragdoll K → Shapes K → Ragdoll K × Shapes K}
    (hf : ∀ r, r.reach ⊆ F.shapes → Confined (Shapes.region F.shapes) (f r))
    (hkept : ∀ r shapes, Ragdoll.Kept r (f r shapes).1) :
    Confined F.region fun w => ((), w.actRagdoll id f) := by
  refine .of_cases fun w w' hw h => ?_
  simp only [World.actRagdoll, Slots.body?_congr (h.ragdolls id hid)]
  cases hr : w.ragdolls.body? id with
  | none => exact ⟨.refl F w, trivial, h⟩
  | some r =>
    have hact := hf r (hw.ragdoll id hid r hr)
    obtain ⟨hanswer, hleft⟩ := hact.agree w.shapes w'.shapes trivial h.shapes
    have hreplace : (w.ragdolls.replace id (f r w.shapes).1).AgreeOn F.ragdolls.members
        (w'.ragdolls.replace id (f r w'.shapes).1) := by
      rw [← hanswer]
      exact h.ragdolls.modify id _
    have hragdolls := Slots.changedOn_replace hid hr (hkept r w.shapes)
    exact ⟨⟨hact.changed w.shapes trivial, .refl _ _, hragdolls⟩, trivial, hleft, h.entities,
      hreplace⟩

/-- Two footprints without common shapes and members do not meet. -/
theorem apart {G : Footprint} (hshapes : F.shapes.Disjoint G.shapes)
    (hentities : F.entities.members.Disjoint G.entities.members)
    (hragdolls : F.ragdolls.members.Disjoint G.ragdolls.members) :
    (F.region : Region (World K)).Apart G.region where
  left h := ⟨h.shapes.agreeOn hshapes,
    h.entities.agreeOn fun id hF hG => hentities hF (Roster.mem_members_of_mem_others hG),
    h.ragdolls.agreeOn hragdolls⟩
  right h := ⟨h.shapes.agreeOn hshapes.symm,
    h.entities.agreeOn fun id hG hF => hentities (Roster.mem_members_of_mem_others hF) hG,
    h.ragdolls.agreeOn hragdolls.symm⟩
  ext {a b₁ b₂ c₁ c₂} h₁ h₁' h₂ h₂' hF hG := by
    have hs := Arena.ext_of_changedOn h₁.shapes h₁'.shapes h₂.shapes h₂'.shapes hF.shapes hG.shapes
    have he := Arena.ext_of_changedOn h₁.entities h₁'.entities h₂.entities h₂'.entities
      (fun id hid => hF.entities id (Roster.mem_members_of_mem_others hid))
      (fun id hid => hG.entities id (Roster.mem_members_of_mem_others hid))
    have hr := Arena.ext_of_changedOn h₁.ragdolls h₁'.ragdolls h₂.ragdolls h₂'.ragdolls
      hF.ragdolls hG.ragdolls
    cases c₁
    cases c₂
    exact congr (congr (congrArg World.mk hs) he) hr

end Footprint

end RagdollDynamics
