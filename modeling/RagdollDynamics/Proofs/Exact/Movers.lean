import RagdollDynamics.Proofs.Exact.Real
import RagdollDynamics.Proofs.Frame.Contacts

/-!
# Which shapes are moved

In exact arithmetic a correction of which a shape takes no part does not move that shape.  So
contacts move the shapes to which they give a share (`Contact.movers`), and rods and collisions the
shapes that are not immovable when they are enforced or answered (`Shapes.movable`).
-/

namespace RagdollDynamics

variable {F : List ShapeId} {shapes : Shapes ℝ} {x : ShapeId}

theorem Vec3.mul_zero (v : Vec3 ℝ) : v * (0 : ℝ) = 0 := by
  simp only [mul_def, zero_def, MulZeroClass.mul_zero]

/-- A displacement that is zero changes nothing. -/
theorem Shapes.changed_moveBy {u : Vec3 ℝ} (h : u ≠ 0 → x ∈ F) :
    shapes.ChangedOn Shape.Kept F (shapes.modify x fun s => s.moveBy u) := by
  by_cases hu : u = 0
  · subst hu
    have hstays : ∀ s : Shape ℝ, s.moveBy 0 = s := fun s => by rw [Shape.moveBy, add_zero]
    rw [Arena.modify_eq_self fun s _ => hstays s]
    exact .refl F shapes
  · exact Shapes.changed_place (h hu) _

/-! ### Contacts -/

namespace Contact

/-- The shapes to which a contact gives a share of its corrections. -/
noncomputable def movers (c : Contact ℝ) : List ShapeId :=
  (if c.lowerShare = 0 then [] else [c.lower]) ++ if c.upperShare = 0 then [] else [c.upper]

variable {c : Contact ℝ}

theorem mem_movers_iff : x ∈ c.movers ↔
    (c.lower = x ∧ c.lowerShare ≠ 0) ∨ (c.upper = x ∧ c.upperShare ≠ 0) := by
  have hside : ∀ (y : ShapeId) (share : ℝ),
      x ∈ (if share = 0 then [] else [y]) ↔ y = x ∧ share ≠ 0 := by
    intro y share
    by_cases h : share = 0 <;> simp [h, eq_comm]
  rw [movers, List.mem_append, hside, hside]

theorem movers_subset (c : Contact ℝ) : c.movers ⊆ c.shapes := by
  intro x hx
  rcases mem_movers_iff.1 hx with ⟨rfl, -⟩ | ⟨rfl, -⟩
  · exact List.mem_cons_self
  · exact List.mem_cons_of_mem _ List.mem_cons_self

theorem changedOn_spread (c : Contact ℝ) (v : Vec3 ℝ) (shapes : Shapes ℝ) :
    shapes.ChangedOn Shape.Kept c.movers (c.spread v shapes) := by
  have hlower : -(v * c.lowerShare) ≠ 0 → c.lower ∈ c.movers := by
    intro hmoves
    refine mem_movers_iff.2 (.inl ⟨rfl, fun hshare => hmoves ?_⟩)
    rw [hshare, Vec3.mul_zero, neg_zero]
  have hupper : v * c.upperShare ≠ 0 → c.upper ∈ c.movers := by
    intro hmoves
    refine mem_movers_iff.2 (.inr ⟨rfl, fun hshare => hmoves ?_⟩)
    rw [hshare, Vec3.mul_zero]
  exact (Shapes.changed_moveBy hlower).trans (Shapes.changed_moveBy hupper)

theorem changedOn_enforce (c : Contact ℝ) (shapes : Shapes ℝ) :
    shapes.ChangedOn Shape.Kept c.movers (c.enforce shapes).2.2 := by
  unfold enforce
  split
  · exact .refl _ shapes
  split
  next => exact .refl _ shapes
  next v hv =>
    dsimp only
    split
    · exact .refl _ shapes
    · exact c.changedOn_spread _ shapes

theorem changedOn_rub (c : Contact ℝ) (shapes : Shapes ℝ) :
    shapes.ChangedOn Shape.Kept c.movers (c.rub shapes).2 := by
  unfold rub
  split
  · exact .refl _ shapes
  split
  next => exact .refl _ shapes
  next v hv =>
    dsimp only
    split
    · exact .refl _ shapes
    split
    · exact .refl _ shapes
    · exact c.changedOn_spread _ shapes

end Contact

namespace ContactTable

theorem changedOn_enforceEntries {entries : List (ShapePair × Contact ℝ)}
    (hF : ∀ e ∈ entries, e.2.movers ⊆ F) (shapes : Shapes ℝ) :
    shapes.ChangedOn Shape.Kept F (enforceEntries entries shapes).2.2 := by
  induction entries generalizing shapes with
  | nil => exact .refl F shapes
  | cons e rest ih =>
    have hone := (e.2.changedOn_enforce shapes).mono (hF e List.mem_cons_self)
    exact hone.trans (ih (fun e' he' => hF e' (List.mem_cons_of_mem e he')) _)

theorem changedOn_rubEntries {entries : List (ShapePair × Contact ℝ)}
    (hF : ∀ e ∈ entries, e.2.movers ⊆ F) (shapes : Shapes ℝ) :
    shapes.ChangedOn Shape.Kept F (rubEntries entries shapes).2 := by
  induction entries generalizing shapes with
  | nil => exact .refl F shapes
  | cons e rest ih =>
    have hone := (e.2.changedOn_rub shapes).mono (hF e List.mem_cons_self)
    exact hone.trans (ih (fun e' he' => hF e' (List.mem_cons_of_mem e he')) _)

variable {t : ContactTable ℝ}

theorem movers_subset_of_mem {e : ShapePair × Contact ℝ} (he : e ∈ t.entries) :
    e.2.movers ⊆ t.toList.flatMap Contact.movers :=
  fun _ hx => List.mem_flatMap.2 ⟨e.2, List.mem_map_of_mem he, hx⟩

/-- **Contacts move the shapes to which one of them gives a share**, when they are enforced. -/
theorem changedOn_enforce (t : ContactTable ℝ) (shapes : Shapes ℝ) :
    shapes.ChangedOn Shape.Kept (t.toList.flatMap Contact.movers) (t.enforce shapes).2.2 :=
  changedOn_enforceEntries (fun _ he => movers_subset_of_mem he) shapes

/-- **Contacts move the shapes to which one of them gives a share**, when they rub. -/
theorem changedOn_rub (t : ContactTable ℝ) (shapes : Shapes ℝ) :
    shapes.ChangedOn Shape.Kept (t.toList.flatMap Contact.movers) (t.rub shapes).2 :=
  changedOn_rubEntries (fun _ he => movers_subset_of_mem he) shapes

end ContactTable

/-! ### Joints and collisions -/

noncomputable def Shapes.movable (shapes : Shapes ℝ) (ids : List ShapeId) : List ShapeId :=
  ids.filter fun x => shapes.inverseMass x ≠ 0

theorem Shapes.mem_movable_iff {ids : List ShapeId} :
    x ∈ shapes.movable ids ↔ x ∈ ids ∧ shapes.inverseMass x ≠ 0 := by
  simp [Shapes.movable]

theorem Shapes.inverseMass_of_find? {s : Shape ℝ} (h : shapes.find? x = some s) :
    shapes.inverseMass x = s.inverseMass := by
  rw [Shapes.inverseMass, h]
  rfl

/-- **A rod moves those of its ends that are not immovable.** -/
theorem Joint.changedOn_enforceRod (a b : ShapeId) (length : ℝ) (shapes : Shapes ℝ) :
    shapes.ChangedOn Shape.Kept (shapes.movable [a, b]) (enforceRod a b length shapes).2 := by
  have hmoves : ∀ {y : ShapeId} {s : Shape ℝ} {v : Vec3 ℝ}, shapes.find? y = some s → y ∈ [a, b] →
      v * s.inverseMass ≠ 0 → y ∈ shapes.movable [a, b] := by
    intro y s v hs hy hv
    refine Shapes.mem_movable_iff.2 ⟨hy, fun hzero => hv ?_⟩
    rw [← Shapes.inverseMass_of_find? hs, hzero, Vec3.mul_zero]
  unfold enforceRod
  split
  · exact .refl _ shapes
  split
  next s t hs ht =>
    dsimp only
    split
    · exact .refl _ shapes
    split
    · exact .refl _ shapes
    · refine (Shapes.changed_moveBy fun hv => ?_).trans (Shapes.changed_moveBy fun hv => ?_)
      · exact hmoves hs List.mem_cons_self hv
      · exact hmoves ht (List.mem_cons_of_mem a List.mem_cons_self) fun hzero =>
          hv (by rw [hzero, neg_zero])
  next => exact .refl _ shapes

namespace Collision

variable {c : Collision ℝ} {cs : List (Collision ℝ)}

/-- A collision leaves corrections with those of its shapes that are not immovable. -/
theorem changedOn_correct_movable (c : Collision ℝ) (shapes : Shapes ℝ) :
    shapes.ChangedOn Shape.Corrected (shapes.movable c.parties) (c.correct shapes) := by
  have hsecond : ∀ share, shapes.ChangedOn Shape.Corrected (shapes.movable c.parties)
      (if 0 < c.secondInverseMass shapes then c.pushSecond share shapes else shapes) := by
    intro share
    split
    next hpos =>
      refine Arena.changedOn_modifyAll (fun s => s.corrected_leave _) fun b hb => ?_
      have hb' : c.second = some b := Option.mem_toList.1 hb
      rw [secondInverseMass, hb'] at hpos
      exact Shapes.mem_movable_iff.2 ⟨List.mem_cons_of_mem _ hb, hpos.ne'⟩
    next => exact .refl _ shapes
  unfold correct
  split
  next => exact .refl _ shapes
  next a ha =>
    dsimp only
    split
    · exact .refl _ shapes
    split
    next hpos =>
      refine (hsecond _).trans (Arena.changedOn_modify ?_ fun s _ => s.corrected_leave _)
      rw [← Shapes.inverseMass_of_find? ha] at hpos
      exact Shapes.mem_movable_iff.2 ⟨List.mem_cons_self, hpos.ne'⟩
    next => exact hsecond _

theorem find?_foldl_correct (h : shapes.inverseMass x = 0) :
    (cs.foldl (fun s c => c.correct s) shapes).find? x = shapes.find? x := by
  induction cs generalizing shapes with
  | nil => rfl
  | cons c rest ih =>
    have hone := c.changedOn_correct_movable shapes
    have hout : x ∉ shapes.movable c.parties := fun hx => (Shapes.mem_movable_iff.1 hx).2 h
    have hnext : (c.correct shapes).inverseMass x = 0 := by
      rw [Shapes.inverseMass_of_changedOn (fun _ _ hst => hst.build) hone, h]
    exact (ih hnext).trans (hone.find?_eq hout)

/-- **Answering collisions does not move an immovable shape** with which no correction waits. -/
theorem find?_resolveAll (h : shapes.inverseMass x = 0)
    (hempty : ∀ s, shapes.find? x = some s → s.pendingCount = 0) :
    (resolveAll cs shapes).find? x = shapes.find? x := by
  rw [resolveAll, Arena.find?_modifyAll Shape.settle_settle, find?_foldl_correct h]
  split
  · cases hs : shapes.find? x with
    | none => rfl
    | some s => rw [Option.map_some, Shape.settle, if_pos (hempty s hs)]
  · rfl

end Collision

end RagdollDynamics
