import RagdollDynamics.Proofs.Collision.Detection
import RagdollDynamics.Proofs.Contact.Table
import RagdollDynamics.Proofs.Frame.Bodies

/-!
# What contacts and collisions do to shapes

Contacts and collisions are confined to the shapes they join, one by one and table by table.
Answering a list of collisions leaves no correction behind, whichever shapes it names and however
often (`Collision.confined_resolveAll`).
-/

namespace RagdollDynamics

open Shapes (region)

variable {K : Type} {F : List ShapeId}

/-! ### Contacts -/

namespace Contact

variable [Scalar K]

def shapes (c : Contact K) : List ShapeId := [c.lower, c.upper]

variable {c : Contact K} {shapes shapes' : Shapes K}

theorem separation?_congr (h : shapes.AgreeOn F shapes') (hl : c.lower ∈ F) (hu : c.upper ∈ F) :
    c.separation? shapes' = c.separation? shapes := by
  rw [separation?, separation?, Shapes.position?_congr h hl, Shapes.position?_congr h hu]

theorem confined_spread (hl : c.lower ∈ F) (hu : c.upper ∈ F) (v : Vec3 K) :
    Confined (region F) fun shapes => ((), c.spread v shapes) :=
  ⟨fun _ _ => (Shapes.changed_place hl _).trans (Shapes.changed_place hu _),
    fun _ _ _ h => ⟨rfl, (h.modify c.lower _).modify c.upper _⟩⟩

theorem confined_enforce (hl : c.lower ∈ F) (hu : c.upper ∈ F) : Confined (region F)
    fun shapes => (((c.enforce shapes).1, (c.enforce shapes).2.1), (c.enforce shapes).2.2) := by
  refine .of_cases fun shapes shapes' _ h => ?_
  simp only [enforce, separation?_congr h hl hu]
  split
  · exact ⟨.refl F shapes, rfl, h⟩
  split
  next => exact ⟨.refl F shapes, rfl, h⟩
  next v hv =>
    split
    · exact ⟨.refl F shapes, rfl, h⟩
    · have hspread := confined_spread hl hu (c.normal * (v.dot c.normal - c.allowance))
      exact ⟨hspread.changed shapes trivial, rfl, (hspread.agree shapes shapes' trivial h).2⟩

theorem confined_rub (hl : c.lower ∈ F) (hu : c.upper ∈ F) : Confined (region F) c.rub := by
  refine .of_cases fun shapes shapes' _ h => ?_
  simp only [rub, separation?_congr h hl hu]
  split
  · exact ⟨.refl F shapes, rfl, h⟩
  split
  next => exact ⟨.refl F shapes, rfl, h⟩
  next v hv =>
    split
    · exact ⟨.refl F shapes, rfl, h⟩
    split
    · exact ⟨.refl F shapes, rfl, h⟩
    · have hspread := confined_spread hl hu (grip (v - c.normal * v.dot c.normal)
        (c.friction * c.pressure))
      exact ⟨hspread.changed shapes trivial, rfl, (hspread.agree shapes shapes' trivial h).2⟩

end Contact

/-! ### Contact tables -/

/-- The contacts of a table join shapes of a list only. -/
def ContactTable.On (t : ContactTable K) (F : List ShapeId) : Prop :=
  t.Within fun a b => a ∈ F ∧ b ∈ F

theorem ContactTable.on_iff {t : ContactTable K} :
    t.On F ↔ ∀ c ∈ t.toList, c.lower ∈ F ∧ c.upper ∈ F := by
  have hswap : ∀ c : Contact K, (c.lower ∈ F ∧ c.upper ∈ F) ∨ (c.upper ∈ F ∧ c.lower ∈ F) ↔
      c.lower ∈ F ∧ c.upper ∈ F := fun c => by rw [and_comm (a := c.upper ∈ F), or_self]
  simp only [ContactTable.On, ContactTable.Within, hswap]

namespace ContactTable

variable [Scalar K] {t : ContactTable K}

theorem confined_enforceEntries : ∀ {entries : List (ShapePair × Contact K)},
    (∀ e ∈ entries, e.2.lower ∈ F ∧ e.2.upper ∈ F) → Confined (region F) fun shapes =>
      (((enforceEntries entries shapes).1, (enforceEntries entries shapes).2.1),
        (enforceEntries entries shapes).2.2)
  | [], _ => .pure ([], [])
  | e :: rest, h => by
    have hone := h e List.mem_cons_self
    have hrest := confined_enforceEntries fun e' he' => h e' (List.mem_cons_of_mem e he')
    exact (Contact.confined_enforce hone.1 hone.2).bind
      (g := fun one shapes => ((one.1 :: (enforceEntries rest shapes).1,
        (e.1, one.2) :: (enforceEntries rest shapes).2.1), (enforceEntries rest shapes).2.2))
      fun _ _ => hrest.map fun others => (_ :: others.1, (e.1, _) :: others.2)

theorem confined_rubEntries : ∀ {entries : List (ShapePair × Contact K)},
    (∀ e ∈ entries, e.2.lower ∈ F ∧ e.2.upper ∈ F) → Confined (region F) (rubEntries entries)
  | [], _ => .pure _
  | e :: rest, h => by
    have hone := h e List.mem_cons_self
    have hrest := confined_rubEntries fun e' he' => h e' (List.mem_cons_of_mem e he')
    exact (Contact.confined_rub hone.1 hone.2).bind
      (g := fun c shapes => ((e.1, c) :: (rubEntries rest shapes).1, (rubEntries rest shapes).2))
      fun _ _ => hrest.map _

omit [Scalar K] in
theorem On.entries (ht : t.On F) : ∀ e ∈ t.entries, e.2.lower ∈ F ∧ e.2.upper ∈ F :=
  fun _ he => on_iff.1 ht _ (List.mem_map_of_mem he)

theorem confined_enforce (ht : t.On F) : Confined (region F) fun shapes =>
    (((t.enforce shapes).1, (t.enforce shapes).2.1), (t.enforce shapes).2.2) :=
  (confined_enforceEntries ht.entries).map fun all => (Scalar.greatest all.1, ContactTable.mk all.2)

theorem confined_rub (ht : t.On F) : Confined (region F) t.rub :=
  (confined_rubEntries ht.entries).map ContactTable.mk

end ContactTable

/-! ### Collisions -/

namespace Shape

variable [Scalar K]

/-- No correction counts as waiting unless one does. -/
def Balanced (s : Shape K) : Prop := s.pendingCount = 0 → s.pending = 0

/-- Corrections may have come to wait, and nothing else happened. -/
structure Corrected (s s' : Shape K) : Prop where
  build : s'.build = s.build
  balanced : s.Balanced → s'.Balanced

instance : Std.Refl (Corrected (K := K)) := ⟨fun _ => ⟨rfl, id⟩⟩

instance : IsTrans (Shape K) Corrected where
  trans _ _ _ h₁ h₂ := ⟨h₂.build.trans h₁.build, h₂.balanced ∘ h₁.balanced⟩

theorem corrected_leave (s : Shape K) (v : Vec3 K) : s.Corrected (s.leave v) :=
  ⟨rfl, fun _ h => absurd h (Nat.succ_ne_zero _)⟩

/-- When a shape settles after it was corrected, no correction waits any more. -/
theorem Corrected.kept_settle {s s' : Shape K} (h : s.Corrected s') : s.Kept s'.settle := by
  unfold settle
  split
  next hcount => exact ⟨h.build, fun hs => ⟨h.balanced (fun _ => hs.1) hcount, hcount⟩⟩
  next => exact ⟨h.build, fun _ => ⟨rfl, rfl⟩⟩

theorem settle_settle (s : Shape K) : s.settle.settle = s.settle := by
  by_cases h : s.pendingCount = 0 <;> simp [settle, h]

end Shape

namespace Collision

variable [Scalar K] {c : Collision K} {shapes shapes' : Shapes K}

theorem changedOn_correct (hc : c.parties ⊆ F) (shapes : Shapes K) :
    shapes.ChangedOn Shape.Corrected F (c.correct shapes) := by
  have hsecond : ∀ share, shapes.ChangedOn Shape.Corrected F (c.pushSecond share shapes) := fun _ =>
    Arena.changedOn_modifyAll (fun s => s.corrected_leave _) (List.subset_of_cons_subset hc)
  have hfirst : ∀ share (shapes : Shapes K),
      shapes.ChangedOn Shape.Corrected F (c.pushFirst share shapes) := fun _ _ =>
    Arena.changedOn_modify (hc List.mem_cons_self) fun s _ => s.corrected_leave _
  have hmaybe : ∀ {p : Prop} [Decidable p] share,
      shapes.ChangedOn Shape.Corrected F (if p then c.pushSecond share shapes else shapes) := by
    intro p _ share
    split
    · exact hsecond share
    · exact .refl F shapes
  unfold correct
  split
  next => exact .refl F shapes
  next a ha =>
    simp only
    split
    · exact .refl F shapes
    split
    · exact (hmaybe _).trans (hfirst _ _)
    · exact hmaybe _

theorem secondInverseMass_congr (hc : c.parties ⊆ F) (h : shapes.AgreeOn F shapes') :
    c.secondInverseMass shapes' = c.secondInverseMass shapes := by
  unfold secondInverseMass
  cases hb : c.second with
  | none => rfl
  | some b =>
    have hmem : b ∈ F := hc (by simp [parties, hb])
    rw [Option.map_some, Option.map_some, Shapes.inverseMass_congr h hmem]

theorem agreeOn_correct (hc : c.parties ⊆ F) (h : shapes.AgreeOn F shapes') :
    (c.correct shapes).AgreeOn F (c.correct shapes') := by
  have hpush : ∀ {p : Prop} [Decidable p] share, Arena.AgreeOn F
      (if p then c.pushSecond share shapes else shapes)
      (if p then c.pushSecond share shapes' else shapes') := by
    intro p _ share
    split
    · exact h.modifyAll _ _
    · exact h
  simp only [correct, secondInverseMass_congr hc h, ← h c.first (hc List.mem_cons_self)]
  split
  next => exact h
  next a ha =>
    split
    · exact h
    split
    · exact (hpush _).modify _ _
    · exact hpush _

theorem agreeOn_foldl_correct : ∀ {cs : List (Collision K)} {shapes shapes' : Shapes K},
    (∀ c ∈ cs, c.parties ⊆ F) → shapes.AgreeOn F shapes' →
      (cs.foldl (fun s c => c.correct s) shapes).AgreeOn F
        (cs.foldl (fun s c => c.correct s) shapes')
  | [], _, _, _, h => h
  | c :: cs, _, _, hcs, h => by
    have hrest : ∀ c' ∈ cs, c'.parties ⊆ F := fun c' hc' => hcs c' (List.mem_cons_of_mem c hc')
    rw [List.foldl_cons, List.foldl_cons]
    exact agreeOn_foldl_correct hrest (agreeOn_correct (hcs c List.mem_cons_self) h)

/-- Answering collisions leaves no correction waiting that was not waiting before: every shape that
may have been corrected settles afterwards. -/
theorem changedOn_resolveAll (cs : List (Collision K)) (shapes : Shapes K) :
    shapes.ChangedOn Shape.Kept (cs.flatMap parties) (resolveAll cs shapes) := by
  have hcorrected : shapes.ChangedOn Shape.Corrected (cs.flatMap parties)
      (cs.foldl (fun s c => c.correct s) shapes) :=
    List.foldlRecOn cs _ (.refl _ shapes) fun t ht c hc =>
      ht.trans (changedOn_correct (fun x hx => List.mem_flatMap.2 ⟨c, hc, hx⟩) t)
  exact hcorrected.modifyAll_self Shape.settle_settle fun _ _ h => h.kept_settle

/-- **Answering collisions is confined to the shapes that take part.** -/
theorem confined_resolveAll {cs : List (Collision K)} (hcs : cs.flatMap parties ⊆ F) :
    Confined (region F) fun shapes => ((), resolveAll cs shapes) := by
  have hparties : ∀ c ∈ cs, c.parties ⊆ F := fun c hc x hx =>
    hcs (List.mem_flatMap.2 ⟨c, hc, hx⟩)
  refine ⟨fun shapes _ => (changedOn_resolveAll cs shapes).mono hcs, fun _ _ _ h => ⟨rfl, ?_⟩⟩
  exact (agreeOn_foldl_correct hparties h).modifyAll _ _

end Collision

/-! ### Noting collisions -/

section Noting

variable [Scalar K] {hit : Collision K} {c : Contact K} {t : ContactTable K}
  {shapes shapes' : Shapes K}

theorem Contact.anchor_congr (hl : c.lower ∈ F) (hu : c.upper ∈ F)
    (h : shapes.AgreeOn F shapes') (hit : Collision K) :
    c.anchor hit shapes' = c.anchor hit shapes := by
  simp only [Contact.anchor, ← h c.lower hl, ← h c.upper hu]

theorem Contact.start?_congr (hhit : hit.parties ⊆ F) (h : shapes.AgreeOn F shapes')
    (frame : UInt32) (allowance : K) :
    Contact.start? hit frame shapes' allowance = Contact.start? hit frame shapes allowance := by
  unfold Contact.start?
  cases hb : hit.second with
  | none => rfl
  | some b =>
    have hfirst : hit.first ∈ F := hhit List.mem_cons_self
    have hsecond : b ∈ F := hhit (by simp [Collision.parties, hb])
    have hlower : (Contact.blank hit.first b frame allowance).lower ∈ F := by
      simp only [Contact.blank]
      split <;> assumption
    have hupper : (Contact.blank hit.first b frame allowance).upper ∈ F := by
      simp only [Contact.blank]
      split <;> assumption
    simp only [Option.bind_some, ← h hit.first hfirst, ← h b hsecond,
      Contact.anchor_congr hlower hupper h]

namespace ContactTable

omit [Scalar K] in
theorem upsert_congr {key : ShapePair} {renew renew' : Contact K → Contact K}
    {fresh : Option (Contact K)} : ∀ {entries : List (ShapePair × Contact K)},
      (∀ e ∈ entries, renew' e.2 = renew e.2) →
      upsert key renew' fresh entries = upsert key renew fresh entries
  | [], _ => rfl
  | e :: rest, h => by
    rw [upsert, upsert, h e List.mem_cons_self,
      upsert_congr fun e' he' => h e' (List.mem_cons_of_mem e he')]

theorem note_congr (ht : t.On F) (hhit : hit.parties ⊆ F) (h : shapes.AgreeOn F shapes')
    (frame : UInt32) (allowance : K) :
    t.note frame allowance shapes' hit = t.note frame allowance shapes hit := by
  unfold note
  split
  next => rfl
  next key hkey =>
    rw [Contact.start?_congr hhit h, upsert_congr fun e he => ?_]
    have hon := ht.entries e he
    exact Contact.anchor_congr (c := { e.2 with frame := frame }) hon.1 hon.2 h hit

/-- What is noted depends on the shapes that collided and on those already in contact. -/
theorem noteAll_congr {frame : UInt32} {allowance : K} : ∀ {hits : List (Collision K)}
    {t : ContactTable K}, t.On F → hits.flatMap Collision.parties ⊆ F →
      shapes.AgreeOn F shapes' →
      t.noteAll frame allowance shapes' hits = t.noteAll frame allowance shapes hits
  | [], _, _, _, _ => rfl
  | hit :: _, t, ht, hhits, h => by
    rw [List.flatMap_cons, List.append_subset] at hhits
    have hnoted : (t.note frame allowance shapes hit).On F := ht.note fun b hb =>
      ⟨hhits.1 List.mem_cons_self, hhits.1 (by simp [Collision.parties, hb])⟩
    rw [noteAll, List.foldl_cons, note_congr ht hhits.1 h]
    exact noteAll_congr hnoted hhits.2 h

end ContactTable

end Noting

/-! ### Finding collisions -/

namespace Shapes

variable [Scalar K] {shapes shapes' : Shapes K}

theorem collision?_congr (h : shapes.AgreeOn F shapes') {a b : ShapeId} (ha : a ∈ F)
    (hb : b ∈ F) : shapes'.collision? a b = shapes.collision? a b := by
  rw [collision?, collision?, h a ha, h b hb]

theorem collisionsWithin_congr (h : shapes.AgreeOn F shapes') {ids : List ShapeId}
    (hids : ids ⊆ F) (enabled : Nat → Nat → Bool) :
    shapes'.collisionsWithin enabled ids = shapes.collisionsWithin enabled ids :=
  List.filterMap_congr fun _ hp =>
    have hmem := mem_of_mem_allowedPairs hp
    collision?_congr h (hids hmem.1) (hids hmem.2)

theorem collisionsBetween_congr (h : shapes.AgreeOn F shapes') {as bs : List ShapeId}
    (has : as ⊆ F) (hbs : bs ⊆ F) :
    shapes'.collisionsBetween as bs = shapes.collisionsBetween as bs :=
  List.flatMap_congr fun _ ha =>
    List.filterMap_congr fun _ hb => collision?_congr h (has ha) (hbs hb)

end Shapes

end RagdollDynamics
