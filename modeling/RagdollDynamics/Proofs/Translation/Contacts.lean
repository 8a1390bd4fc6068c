import RagdollDynamics.Collision.Enumeration
import RagdollDynamics.Contact.Table
import RagdollDynamics.Proofs.Translation.Bodies

/-!
# Translation of collisions and contacts

A collision moves with its point.  A contact has no place: its anchors are offsets from the shapes,
so it reads, pushes and holds moved shapes as it would the shapes where they were.
-/

namespace RagdollDynamics

/-! ### Collisions -/

/-- The collision found where everything is moved by a vector. -/
noncomputable def Collision.translate (v : Vec3 ℝ) (c : Collision ℝ) : Collision ℝ :=
  { c with point := c.point + v }

namespace Shapes

variable (v : Vec3 ℝ) (shapes : Shapes ℝ)

theorem collision?_translate (a b : ShapeId) :
    (shapes.translate v).collision? a b = (shapes.collision? a b).map (.translate v) := by
  unfold collision?
  by_cases same : a = b
  · simp only [same, ↓reduceIte, Option.map_none]
  rw [if_neg same, if_neg same, find?_translate, find?_translate]
  cases shapes.find? a with
  | none => rfl
  | some s =>
    cases shapes.find? b with
    | none => rfl
    | some t =>
      simp only [Option.map_some, Option.bind_some, Shape.toSolid_moveBy, Solid.overlap?_translate,
        Option.map_map]
      rfl

theorem collisionsOf_translate (a : ShapeId) (others : List ShapeId) :
    (shapes.translate v).collisionsOf a others
      = (shapes.collisionsOf a others).map (.translate v) := by
  simp only [collisionsOf, List.map_filterMap, ← collision?_translate]

theorem collisionsBetween_translate (as bs : List ShapeId) :
    (shapes.translate v).collisionsBetween as bs
      = (shapes.collisionsBetween as bs).map (.translate v) := by
  simp only [collisionsBetween, List.map_flatMap, ← collisionsOf_translate]

theorem collisionsWithin_translate (enabled : Nat → Nat → Bool) (ids : List ShapeId) :
    (shapes.translate v).collisionsWithin enabled ids
      = (shapes.collisionsWithin enabled ids).map (.translate v) := by
  simp only [collisionsWithin, List.map_filterMap, ← collision?_translate]

end Shapes

namespace Collision

variable (v : Vec3 ℝ) (c : Collision ℝ) (shapes : Shapes ℝ)

theorem pushSecond_translate (share : ℝ) :
    (c.translate v).pushSecond share (shapes.translate v)
      = (c.pushSecond share shapes).translate v :=
  shapes.modifyAll_map c.second.toList fun _ => rfl

theorem pushFirst_translate (share : ℝ) :
    (c.translate v).pushFirst share (shapes.translate v)
      = (c.pushFirst share shapes).translate v :=
  shapes.modify_map c.first fun _ => rfl

theorem secondInverseMass_translate :
    (c.translate v).secondInverseMass (shapes.translate v) = c.secondInverseMass shapes := by
  have inverseMass : (shapes.translate v).inverseMass = shapes.inverseMass :=
    funext fun id => shapes.inverseMass_translate v id
  simp only [secondInverseMass, translate, inverseMass]

theorem correct_translate :
    (c.translate v).correct (shapes.translate v) = (c.correct shapes).translate v := by
  unfold correct
  have first : (c.translate v).first = c.first := rfl
  rw [first, Shapes.find?_translate]
  cases shapes.find? c.first with
  | none => rfl
  | some a =>
    simp only [Option.map_some, Shape.inverseMass_moveBy, secondInverseMass_translate,
      pushSecond_translate]
    split
    · rfl
    · split <;> split <;> first | rfl | rw [pushFirst_translate]

theorem resolveAll_translate (cs : List (Collision ℝ)) :
    resolveAll (cs.map (translate v)) (shapes.translate v)
      = (resolveAll cs shapes).translate v := by
  have corrected : (cs.map (translate v)).foldl (fun s c => c.correct s) (shapes.translate v)
      = Shapes.translate v (cs.foldl (fun s c => c.correct s) shapes) := by
    rw [List.foldl_map]
    exact List.foldl_hom (Shapes.translate v) fun s c => c.correct_translate v s
  have parties : (cs.map (translate v)).flatMap parties = cs.flatMap parties := List.flatMap_map ..
  rw [resolveAll, corrected, parties]
  exact Arena.modifyAll_map _ _ fun s => s.settle_moveBy v

end Collision

namespace CollisionBuffer

noncomputable def translate (v : Vec3 ℝ) (b : CollisionBuffer ℝ) : CollisionBuffer ℝ :=
  { b with items := b.items.map (.translate v) }

variable (v : Vec3 ℝ) (b : CollisionBuffer ℝ)

@[simp] theorem toList_translate : (b.translate v).toList = b.toList.map (.translate v) := by
  simp [toList, translate]

@[simp] theorem size_translate : (b.translate v).size = b.size := by simp [size, translate]

@[simp] theorem isEmpty_translate : (b.translate v).isEmpty = b.isEmpty := by
  simp [isEmpty, translate, Array.isEmpty]

@[simp] theorem translate_clear : b.clear.translate v = b.clear := by
  simp [clear, ofCapacity, translate]

theorem offer_translate (c : Collision ℝ) :
    (b.translate v).offer (c.translate v) = ((b.offer c).1, (b.offer c).2.translate v) := by
  have full : (b.translate v).isFull = b.isFull := by rw [isFull, size_translate]; rfl
  unfold offer
  rw [full]
  split
  · rfl
  · simp [translate]

theorem offerAll_translate (cs : List (Collision ℝ)) :
    (b.translate v).offerAll (cs.map (.translate v))
      = ((b.offerAll cs).1, (b.offerAll cs).2.translate v) := by
  induction cs generalizing b with
  | nil => rfl
  | cons c rest ih => simp only [List.map_cons, offerAll, offer_translate, ih]

end CollisionBuffer

/-! ### Contacts -/

namespace Contact

variable (v : Vec3 ℝ) (c : Contact ℝ) (hit : Collision ℝ) (shapes : Shapes ℝ)

theorem anchor_translate :
    c.anchor (hit.translate v) (shapes.translate v) = c.anchor hit shapes := by
  unfold anchor
  rw [Shapes.find?_translate, Shapes.find?_translate]
  cases shapes.find? c.lower with
  | none => rfl
  | some s =>
    cases shapes.find? c.upper with
    | none => rfl
    | some t =>
      have point : (hit.translate v).point = hit.point + v := rfl
      have offset (x y : Vec3 ℝ) (p : Prop) [Decidable p] (position : Vec3 ℝ) :
          (if p then x + v else y + v) - (position + v) = (if p then x else y) - position := by
        split <;> exact add_sub_add_right_eq_sub ..
      simp only [Option.map_some, point, Shape.position_moveBy, add_sub_right_comm, offset]
      rfl

theorem renew_translate (frame : UInt32) :
    c.renew (hit.translate v) frame (shapes.translate v) = c.renew hit frame shapes :=
  anchor_translate ..

theorem start?_translate (frame : UInt32) (allowance : ℝ) :
    start? (hit.translate v) frame (shapes.translate v) allowance
      = start? hit frame shapes allowance := by
  unfold start?
  have first : (hit.translate v).first = hit.first := rfl
  have second : (hit.translate v).second = hit.second := rfl
  simp only [first, second, Shapes.find?_translate, anchor_translate, Option.map_map,
    Option.bind_map, Function.comp_def]

theorem separation?_translate : c.separation? (shapes.translate v) = c.separation? shapes := by
  unfold separation?
  simp only [Shapes.position?_translate, Option.map_map, Option.bind_map, Function.comp_def,
    add_right_comm _ v, add_sub_add_right_eq_sub]

theorem spread_translate (u : Vec3 ℝ) :
    c.spread u (shapes.translate v) = (c.spread u shapes).translate v := by
  simp only [spread, Shapes.modify_moveBy_translate]

theorem enforce_translate :
    c.enforce (shapes.translate v)
      = ((c.enforce shapes).1, (c.enforce shapes).2.1, (c.enforce shapes).2.2.translate v) := by
  unfold enforce
  rw [separation?_translate]
  split
  · rfl
  · cases c.separation? shapes with
    | none => rfl
    | some u =>
      simp only [spread_translate]
      split <;> rfl

theorem rub_translate :
    c.rub (shapes.translate v) = ((c.rub shapes).1, (c.rub shapes).2.translate v) := by
  unfold rub
  rw [separation?_translate]
  split
  · rfl
  · cases c.separation? shapes with
    | none => rfl
    | some u =>
      simp only [spread_translate]
      split
      · rfl
      · split <;> rfl

end Contact

namespace ContactTable

variable (v : Vec3 ℝ) (t : ContactTable ℝ) (shapes : Shapes ℝ)

theorem note_translate (frame : UInt32) (allowance : ℝ) (hit : Collision ℝ) :
    t.note frame allowance (shapes.translate v) (hit.translate v)
      = t.note frame allowance shapes hit := by
  have key : (hit.translate v).key? = hit.key? := rfl
  unfold note
  simp only [key, Contact.renew_translate, Contact.start?_translate]

theorem noteAll_translate (frame : UInt32) (allowance : ℝ) (hits : List (Collision ℝ)) :
    t.noteAll frame allowance (shapes.translate v) (hits.map (.translate v))
      = t.noteAll frame allowance shapes hits := by
  simp only [noteAll, List.foldl_map, note_translate]

theorem enforceEntries_translate (entries : List (ShapePair × Contact ℝ)) :
    enforceEntries entries (shapes.translate v)
      = ((enforceEntries entries shapes).1, (enforceEntries entries shapes).2.1,
          (enforceEntries entries shapes).2.2.translate v) := by
  induction entries generalizing shapes with
  | nil => rfl
  | cons e rest ih => simp only [enforceEntries, Contact.enforce_translate, ih]

theorem enforce_translate :
    t.enforce (shapes.translate v)
      = ((t.enforce shapes).1, (t.enforce shapes).2.1, (t.enforce shapes).2.2.translate v) := by
  simp only [enforce, enforceEntries_translate]

theorem rubEntries_translate (entries : List (ShapePair × Contact ℝ)) :
    rubEntries entries (shapes.translate v)
      = ((rubEntries entries shapes).1, (rubEntries entries shapes).2.translate v) := by
  induction entries generalizing shapes with
  | nil => rfl
  | cons e rest ih => simp only [rubEntries, Contact.rub_translate, ih]

theorem rub_translate :
    t.rub (shapes.translate v) = ((t.rub shapes).1, (t.rub shapes).2.translate v) := by
  simp only [rub, rubEntries_translate]

end ContactTable

end RagdollDynamics
