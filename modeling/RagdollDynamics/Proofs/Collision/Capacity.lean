import Mathlib.Data.List.ProdSigma
import Mathlib.Data.Multiset.Bind
import RagdollDynamics.Proofs.Exact.Real
import RagdollDynamics.Proofs.Collision.Detection

/-!
# Detection within a capacity

A buffer keeps the longest prefix of the collisions it is offered for which it has room, counts the
others, and answers whether it kept any (`CollisionBuffer.takes_offerAll`).  So detection keeps the
collisions of all pairs it has to test, in the order of the pairs, cut to the capacity of the buffer
(`Simulation.detection_saturates`).
-/

namespace RagdollDynamics

variable {K : Type}

/-! ### Buffers -/

namespace CollisionBuffer

def room (b : CollisionBuffer K) : Nat := b.capacity - b.size

/-- What comes of offering `cs` to the buffer `b`: the longest prefix for which there is room is
appended, the others are counted as dropped, and the answer is whether any was kept. -/
structure Takes (b : CollisionBuffer K) (cs : List (Collision K))
    (offered : Bool × CollisionBuffer K) : Prop where
  capacity : offered.2.capacity = b.capacity
  toList : offered.2.toList = b.toList ++ cs.take b.room
  dropped : offered.2.dropped = b.dropped + (cs.drop b.room).length
  kept : offered.1 = true ↔ cs.take b.room ≠ []

variable {b : CollisionBuffer K} {c : Collision K} {cs ds : List (Collision K)}

theorem length_toList (b : CollisionBuffer K) : b.toList.length = b.size := by
  simp [toList, size]

theorem isFull_iff : b.isFull ↔ b.room = 0 := by
  simp only [isFull, room, decide_eq_true_eq]
  omega

theorem offer_of_full (h : b.room = 0) : b.offer c = (false, { b with dropped := b.dropped + 1 }) :=
  if_pos (isFull_iff.2 h)

theorem offer_of_room (h : b.room ≠ 0) : b.offer c = (true, { b with items := b.items.push c }) :=
  if_neg fun full => h (isFull_iff.1 full)

/-- **Offering collisions in turn** keeps as many of them as there is room for, the first ones. -/
theorem takes_offerAll (b : CollisionBuffer K) (cs : List (Collision K)) :
    b.Takes cs (b.offerAll cs) := by
  induction cs generalizing b with
  | nil => exact ⟨rfl, by simp [offerAll], by simp [offerAll], by simp [offerAll]⟩
  | cons c cs ih =>
    rw [offerAll]
    by_cases h : b.room = 0
    · -- a full buffer stays full
      have hstays : room { b with dropped := b.dropped + 1 } = 0 := h
      rw [offer_of_full h]
      obtain ⟨hcapacity, htoList, hdropped, hkept⟩ := ih { b with dropped := b.dropped + 1 }
      rw [hstays] at htoList hdropped hkept
      refine ⟨hcapacity, ?_, ?_, ?_⟩
      · rw [htoList, h, List.take_zero, List.take_zero]
        rfl
      · simp only [hdropped, h, List.drop_zero, List.length_cons]
        omega
      · simpa [h] using hkept
    · have hroom : b.room = room { b with items := b.items.push c } + 1 := by
        simp only [room, size, Array.size_push] at h ⊢
        omega
      rw [offer_of_room h]
      obtain ⟨hcapacity, htoList, hdropped, -⟩ := ih { b with items := b.items.push c }
      refine ⟨hcapacity, ?_, ?_, ?_⟩
      · rw [htoList, hroom, List.take_succ_cons]
        simp [toList]
      · rw [hdropped, hroom, List.drop_succ_cons]
      · simp [hroom]

theorem Takes.size {offered : Bool × CollisionBuffer K} (h : b.Takes cs offered) :
    offered.2.size = b.size + min b.room cs.length := by
  rw [← length_toList, h.toList, List.length_append, length_toList, List.length_take]

/-- Nothing was refused if and only if everything was kept. -/
theorem Takes.dropped_eq_iff {offered : Bool × CollisionBuffer K} (h : b.Takes cs offered) :
    offered.2.dropped = b.dropped ↔ offered.2.toList = b.toList ++ cs := by
  have hall : cs.take b.room = cs ↔ cs.length ≤ b.room := List.take_eq_self_iff cs
  rw [h.dropped, h.toList, List.append_cancel_left_eq, hall, List.length_drop]
  omega

/-- What is kept of two lists that are offered one after the other. -/
theorem takes_append {first second : Bool × CollisionBuffer K} (h₁ : b.Takes cs first)
    (h₂ : first.2.Takes ds second) :
    second.2.toList = b.toList ++ (cs ++ ds).take b.room ∧
    second.2.dropped = b.dropped + ((cs ++ ds).drop b.room).length ∧
    second.2.capacity = b.capacity ∧
    (second.1 = true ↔ ds ≠ [] ∧ cs.length < b.room) := by
  have hroom : first.2.room = b.room - cs.length := by
    have hsize := h₁.size
    have hcapacity := h₁.capacity
    simp only [room] at hsize ⊢
    omega
  refine ⟨?_, ?_, h₂.capacity.trans h₁.capacity, ?_⟩
  · rw [h₂.toList, h₁.toList, hroom, List.take_append, List.append_assoc]
  · rw [h₂.dropped, h₁.dropped, hroom, List.drop_append, List.length_append, Nat.add_assoc]
  · rw [h₂.kept, hroom, Ne, List.take_eq_nil_iff, not_or, Nat.sub_eq_zero_iff_le, Nat.not_le,
      and_comm]

end CollisionBuffer

/-! ### Enumeration -/

namespace Shapes

/-- The pairs of a list's members at positions `i < j` that `enabled` allows, in lexicographic order
of the positions. -/
def pairsWithin (enabled : Nat → Nat → Bool) (ids : List ShapeId) : List (ShapeId × ShapeId) :=
  ids.zipIdx.flatMap fun p =>
    (ids.zipIdx.filter fun q => p.2 < q.2 ∧ enabled p.2 q.2).map fun q => (p.1, q.1)

theorem allowedPairs_eq (enabled : Nat → Nat → Bool) (start : Nat) (ids : List ShapeId) :
    allowedPairs enabled start ids = (ids.zipIdx start).flatMap fun p =>
      ((ids.zipIdx start).filter fun q => p.2 < q.2 ∧ enabled p.2 q.2).map fun q => (p.1, q.1) := by
  induction ids generalizing start with
  | nil => rfl
  | cons a rest ih =>
    have hafter : ∀ p ∈ rest.zipIdx (start + 1), start < p.2 := by
      intro p hp
      exact (List.mem_zipIdx_iff_le_and_getElem?_sub.1 hp).1
    -- the first member stands before all others, and no other one stands before it
    have hfirst : ((a, start) :: rest.zipIdx (start + 1)).filter
        (fun q => start < q.2 ∧ enabled start q.2) =
          (rest.zipIdx (start + 1)).filter fun q => enabled start q.2 := by
      rw [List.filter_cons_of_neg (by simp)]
      refine List.filter_congr fun q hq => ?_
      simp [hafter q hq]
    have hothers : ∀ p ∈ rest.zipIdx (start + 1), ((a, start) :: rest.zipIdx (start + 1)).filter
        (fun q => p.2 < q.2 ∧ enabled p.2 q.2) =
          (rest.zipIdx (start + 1)).filter fun q => p.2 < q.2 ∧ enabled p.2 q.2 := by
      intro p hp
      have hlt := hafter p hp
      rw [List.filter_cons_of_neg (by simp; omega)]
    rw [allowedPairs, ih, List.zipIdx_cons, List.flatMap_cons, hfirst]
    congr 1
    refine List.flatMap_congr fun p hp => ?_
    rw [hothers p hp]

variable [Scalar K]

def hits (shapes : Shapes K) (pairs : List (ShapeId × ShapeId)) : List (Collision K) :=
  pairs.filterMap fun p => shapes.collision? p.1 p.2

variable (shapes : Shapes K) (enabled : Nat → Nat → Bool) (a : ShapeId) (as bs ids : List ShapeId)

theorem collisionsWithin_eq :
    shapes.collisionsWithin enabled ids = shapes.hits (pairsWithin enabled ids) := by
  rw [collisionsWithin, allowedPairs_eq, hits, pairsWithin]

theorem hits_map_mk : shapes.hits (bs.map (Prod.mk a)) = shapes.collisionsOf a bs :=
  List.filterMap_map

theorem hits_flatMap {ι : Type} (l : List ι) (f : ι → List (ShapeId × ShapeId)) :
    shapes.hits (l.flatMap f) = l.flatMap fun i => shapes.hits (f i) :=
  List.filterMap_flatMap

theorem hits_product : shapes.hits (as ×ˢ bs) = shapes.collisionsBetween as bs := by
  show shapes.hits (as.flatMap fun a => bs.map (Prod.mk a)) = _
  rw [hits_flatMap, collisionsBetween]
  exact List.flatMap_congr fun a _ => shapes.hits_map_mk a bs

theorem collisionsOf_flatMap {ι : Type} (l : List ι) (f : ι → List ShapeId) :
    shapes.collisionsOf a (l.flatMap f) = l.flatMap fun i => shapes.collisionsOf a (f i) :=
  List.filterMap_flatMap

end Shapes

theorem perm_flatMap_comm {α β γ : Type} (l : List α) (m : List β) (f : α → β → List γ) :
    (l.flatMap fun a => m.flatMap (f a)).Perm (m.flatMap fun b => l.flatMap fun a => f a b) := by
  have hswap := Multiset.bind_bind (l : Multiset α) (m : Multiset β)
    (f := fun a b => (f a b : Multiset γ))
  simpa only [Multiset.coe_bind, Multiset.coe_eq_coe] using hswap

/-! ### Detection -/

namespace Simulation

def primaryShapes (s : Simulation K) (w : World K) : List ShapeId :=
  ((s.entities.primary.bind w.entities.body?).map Entity.shapes).getD []

def ownPairs (s : Simulation K) (w : World K) : List (ShapeId × ShapeId) :=
  ((s.entities.primary.bind w.entities.body?).map fun e =>
    Shapes.pairsWithin e.allows e.shapes).getD []

/-- The pairs that are tested between the primary entity and the others: entity by entity, and for
each of them shape by shape of the primary entity. -/
def otherPairs (s : Simulation K) (w : World K) : List (ShapeId × ShapeId) :=
  s.entities.others.flatMap fun o => s.primaryShapes w ×ˢ w.entityShapes o

/-- The pairs that are tested between one shape and the others, entity by entity. -/
def pairsOf (s : Simulation K) (w : World K) (a : ShapeId) : List (ShapeId × ShapeId) :=
  s.entities.others.flatMap fun o => (w.entityShapes o).map (Prod.mk a)

variable [Scalar K] {s : Simulation K} {w : World K}

theorem ownCollisions_eq (s : Simulation K) (w : World K) :
    s.ownCollisions w = w.shapes.hits (s.ownPairs w) := by
  unfold ownCollisions ownPairs
  cases s.entities.primary.bind w.entities.body? with
  | none => rfl
  | some e => exact w.shapes.collisionsWithin_eq e.allows e.shapes

theorem otherCollisions_eq (s : Simulation K) (w : World K) :
    s.otherCollisions w = w.shapes.hits (s.otherPairs w) := by
  rw [otherPairs, Shapes.hits_flatMap]
  simp only [Shapes.hits_product]
  unfold otherCollisions primaryShapes
  cases s.entities.primary.bind w.entities.body? with
  | none => exact (List.flatMap_eq_nil_iff.2 fun _ _ => rfl).symm
  | some e => rfl

theorem takes_collideOthers (s : Simulation K) (w : World K) (a : ShapeId)
    (b : CollisionBuffer K) : b.Takes (w.shapes.hits (s.pairsOf w a)) (s.collideOthers w a b) := by
  have hpairs : w.shapes.hits (s.pairsOf w a) =
      w.shapes.collisionsOf a (s.entities.others.flatMap w.entityShapes) := by
    rw [pairsOf, Shapes.hits_flatMap, Shapes.collisionsOf_flatMap]
    exact List.flatMap_congr fun o _ => w.shapes.hits_map_mk a (w.entityShapes o)
  rw [hpairs]
  exact b.takes_offerAll _

/-- The collisions that come together when every shape of the primary entity is collided with the
others by itself, the one at position `i` into the buffer `lists i`. -/
def gathered (s : Simulation K) (w : World K) (lists : Nat → CollisionBuffer K) :
    List (Collision K) :=
  (s.primaryShapes w).zipIdx.flatMap fun p =>
    (s.collideOthers w p.1 (lists p.2)).2.toList.drop (lists p.2).size

/-- **Shape by shape or entity by entity**, the same collisions are found. -/
theorem gathered_perm {lists : Nat → CollisionBuffer K}
    (fits : ∀ p ∈ (s.primaryShapes w).zipIdx,
      (s.collideOthers w p.1 (lists p.2)).2.dropped = (lists p.2).dropped) :
    (s.gathered w lists).Perm (w.shapes.hits (s.otherPairs w)) := by
  have hshapes : s.gathered w lists =
      (s.primaryShapes w).flatMap fun a => w.shapes.hits (s.pairsOf w a) := by
    have hfst : s.primaryShapes w = (s.primaryShapes w).zipIdx.map Prod.fst :=
      (List.zipIdx_map_fst 0 _).symm
    conv_rhs => rw [hfst, List.flatMap_map]
    refine List.flatMap_congr fun p hp => ?_
    have htakes := s.takes_collideOthers w p.1 (lists p.2)
    rw [htakes.dropped_eq_iff.1 (fits p hp), ← CollisionBuffer.length_toList, List.drop_left]
  rw [hshapes, otherPairs, Shapes.hits_flatMap]
  simp only [pairsOf, Shapes.hits_flatMap, Shapes.hits_map_mk, Shapes.hits_product,
    Shapes.collisionsBetween]
  exact perm_flatMap_comm _ _ _

/-- What detection keeps of the collisions of its pairs, and what it answers. -/
theorem detect_spec (s : Simulation K) (w : World K) :
    let own := w.shapes.hits (s.ownPairs w)
    let other := w.shapes.hits (s.otherPairs w)
    let buffer := (s.detect w).2.collisions
    let capacity := s.collisions.capacity
    buffer.toList = (own ++ other).take capacity ∧
    buffer.dropped = ((own ++ other).drop capacity).length ∧
    buffer.capacity = capacity ∧
    ((s.detect w).1 = true ↔ other ≠ [] ∧ own.length < capacity) := by
  intro own other buffer capacity
  have hown := s.collisions.clear.takes_offerAll own
  have hother := (s.collisions.clear.offerAll own).2.takes_offerAll other
  have hdetect : s.detect w = (((s.collisions.clear.offerAll own).2.offerAll other).1,
      { s with collisions := ((s.collisions.clear.offerAll own).2.offerAll other).2 }) := by
    simp only [detect, ownCollisions_eq, otherCollisions_eq, own, other]
  obtain ⟨htoList, hdropped, hcapacity, hkept⟩ := CollisionBuffer.takes_append hown hother
  simp only [buffer, hdetect]
  -- a buffer that was cleared has room for as many collisions as it keeps
  refine ⟨htoList, ?_, hcapacity, hkept⟩
  rw [hdropped]
  exact Nat.zero_add _

/-- **Detection keeps what it finds up to the capacity of the buffer**, and so do the other ways of
filling one: what is kept are the first collisions of the pairs that are tested, in the order of the
pairs, and the others are counted.  Detection answers whether it kept a collision with another
entity, the others whether they kept any; and shape by shape the same collisions with other entities
are found, in another order. -/
theorem detection_saturates (s : Simulation K) (w : World K) :
    let own := w.shapes.hits (s.ownPairs w)
    let other := w.shapes.hits (s.otherPairs w)
    let buffer := (s.detect w).2.collisions
    let capacity := s.collisions.capacity
    (buffer.toList = (own ++ other).take (min capacity (own.length + other.length)) ∧
      buffer.dropped = own.length + other.length - min capacity (own.length + other.length) ∧
      buffer.capacity = capacity ∧
      ((s.detect w).1 = true ↔ other ≠ [] ∧ own.length < capacity)) ∧
    (∀ (b : CollisionBuffer K) as bs,
      b.Takes (w.shapes.hits (as ×ˢ bs)) (b.offerAll (w.shapes.collisionsBetween as bs))) ∧
    (∀ (b : CollisionBuffer K) a, b.Takes (w.shapes.hits (s.pairsOf w a)) (s.collideOthers w a b)) ∧
    ∀ lists : Nat → CollisionBuffer K,
      (∀ p ∈ (s.primaryShapes w).zipIdx,
        (s.collideOthers w p.1 (lists p.2)).2.dropped = (lists p.2).dropped) →
      (s.gathered w lists).Perm other ∧
        (buffer.dropped = 0 → buffer.toList.Perm (own ++ s.gathered w lists)) := by
  intro own other buffer capacity
  obtain ⟨htoList, hdropped, hcapacity, hanswer⟩ :
    buffer.toList = (own ++ other).take capacity ∧
    buffer.dropped = ((own ++ other).drop capacity).length ∧ _ ∧ _ := s.detect_spec w
  rw [List.length_drop, List.length_append] at hdropped
  refine ⟨⟨?_, ?_, hcapacity, hanswer⟩, ?_, fun b a => s.takes_collideOthers w a b, ?_⟩
  · rw [htoList, List.take_eq_take_min, List.length_append]
  · omega
  · intro b as bs
    rw [Shapes.hits_product]
    exact b.takes_offerAll _
  · intro lists fits
    have hperm := gathered_perm fits
    refine ⟨hperm, fun hall => ?_⟩
    have hfits : (own ++ other).length ≤ capacity := by
      rw [List.length_append]
      omega
    rw [htoList, List.take_of_length_le hfits]
    exact hperm.symm.append_left own

/-! ### A pile -/

noncomputable def pebble : Shape ℝ := .ofForm (.sphere 0.5) 1

/-- Four balls on top of each other.  Three belong to one entity, which keeps the first two of them
apart; the other entity also lists a shape that does not exist. -/
noncomputable def pile : World ℝ where
  shapes := ⟨Array.replicate 4 pebble⟩
  entities := ⟨#[⟨.rigid ((RigidBody.ofMass 1 [⟨0⟩, ⟨1⟩, ⟨2⟩]).disable 0 1), some ⟨1⟩⟩,
    ⟨.rigid (.ofMass 1 [⟨3⟩, ⟨9⟩]), some ⟨1⟩⟩]⟩
  ragdolls := .empty

noncomputable def sifter : Simulation ℝ :=
  { fresh ⟨1⟩ { (.standard : Config ℝ) with maxCollisions := 3 } (.still 0) with
    entities := ⟨some ⟨0⟩, [⟨1⟩]⟩ }

/-- Two balls of the pile collide along the vertical. -/
noncomputable def bump (a b : ShapeId) : Collision ℝ := ⟨⟨⟨0, 0.5, 0⟩, ⟨0, 1, 0⟩⟩, a, some b⟩

theorem overlap?_pebble : pebble.toSolid.overlap? pebble.toSolid =
    some ⟨⟨0, 0.5, 0⟩, ⟨0, 1, 0⟩⟩ := by
  show Ball.overlapBall? (K := ℝ) ⟨⟨0, 0, 0⟩, 0.5⟩ ⟨⟨0, 0, 0⟩, 0.5⟩ = _
  have hsq : Vec3.lengthSq ((⟨0, 0, 0⟩ : Vec3 ℝ) - ⟨0, 0, 0⟩) = 0 := by
    rw [Vec3.sub_def]
    norm_num [Vec3.lengthSq, Vec3.dot]
  have hdeep : ¬ ((0.5 : ℝ) + 0.5) * (0.5 + 0.5) ≤ 0 := by norm_num
  have hshort : ¬ (Scalar.tolerance : ℝ) < 0 := by norm_num [Scalar.tolerance]
  simp only [Ball.overlapBall?, hsq, hdeep, Scalar.sqrt_real, Real.sqrt_zero, hshort, if_false]
  norm_num [Vec3.up, Vec3.add_def, Vec3.mul_def]

theorem collision?_pile (a b : ShapeId) : pile.shapes.collision? a b =
    if a ≠ b ∧ a.index < 4 ∧ b.index < 4 then some (bump a b) else none := by
  have hfind : ∀ x : ShapeId, pile.shapes.find? x = if x.index < 4 then some pebble else none :=
    fun x => Array.getElem?_replicate
  rw [Shapes.collision?, hfind, hfind]
  by_cases hab : a = b
  · simp [hab]
  · by_cases ha : a.index < 4
    · by_cases hb : b.index < 4
      · simp [hab, ha, hb, overlap?_pebble, bump]
      · simp [hab, ha, hb]
    · simp [hab, ha]

theorem hits_own_pile : pile.shapes.hits (sifter.ownPairs pile) =
    [bump ⟨0⟩ ⟨2⟩, bump ⟨1⟩ ⟨2⟩] := by
  have hpairs : sifter.ownPairs pile = [(⟨0⟩, ⟨2⟩), (⟨1⟩, ⟨2⟩)] := rfl
  rw [hpairs]
  simp [Shapes.hits, collision?_pile, Handle.index]

theorem hits_other_pile : pile.shapes.hits (sifter.otherPairs pile) =
    [bump ⟨0⟩ ⟨3⟩, bump ⟨1⟩ ⟨3⟩, bump ⟨2⟩ ⟨3⟩] := by
  have hpairs : sifter.otherPairs pile =
      [(⟨0⟩, ⟨3⟩), (⟨0⟩, ⟨9⟩), (⟨1⟩, ⟨3⟩), (⟨1⟩, ⟨9⟩), (⟨2⟩, ⟨3⟩), (⟨2⟩, ⟨9⟩)] := rfl
  rw [hpairs]
  simp [Shapes.hits, collision?_pile, Handle.index]

/-- A buffer for one collision is enough for each ball of the first entity. -/
theorem fits_pile : ∀ p ∈ (sifter.primaryShapes pile).zipIdx,
    (sifter.collideOthers pile p.1 (.ofCapacity 1)).2.dropped = 0 := by
  have hone : ∀ a : ShapeId, (pile.shapes.hits (sifter.pairsOf pile a)).length ≤ 1 := by
    intro a
    have hpairs : sifter.pairsOf pile a = [(a, ⟨3⟩), (a, ⟨9⟩)] := rfl
    have hmissing : pile.shapes.collision? a ⟨9⟩ = none := by simp [collision?_pile, Handle.index]
    have hfirst : pile.shapes.hits [(a, ⟨3⟩), (a, ⟨9⟩)] = pile.shapes.hits [(a, ⟨3⟩)] := by
      simp [Shapes.hits, List.filterMap_cons, hmissing]
    rw [hpairs, hfirst]
    exact List.length_filterMap_le _ _
  intro p _
  have htakes := sifter.takes_collideOthers pile p.1 (.ofCapacity 1)
  have hroom : (CollisionBuffer.ofCapacity 1 : CollisionBuffer ℝ).room = 1 := rfl
  rw [htakes.dropped, List.length_drop, hroom, Nat.sub_eq_zero_of_le (hone p.1)]
  rfl

/-- Detection keeps three of five collisions. -/
theorem detection_saturates_of_pile :
    (∀ p ∈ (sifter.primaryShapes pile).zipIdx,
      (sifter.collideOthers pile p.1 (.ofCapacity 1)).2.dropped = 0) ∧
    (sifter.detect pile).2.collisions.toList = [bump ⟨0⟩ ⟨2⟩, bump ⟨1⟩ ⟨2⟩, bump ⟨0⟩ ⟨3⟩] ∧
    (sifter.detect pile).2.collisions.dropped = 2 ∧
    (sifter.detect pile).1 = true ∧
    (sifter.gathered pile fun _ => .ofCapacity 1).Perm
      [bump ⟨0⟩ ⟨3⟩, bump ⟨1⟩ ⟨3⟩, bump ⟨2⟩ ⟨3⟩] := by
  obtain ⟨⟨hkept, hdropped, -, hanswer⟩, -, -, hgathered⟩ := detection_saturates sifter pile
  obtain ⟨hperm, -⟩ := hgathered (fun _ => .ofCapacity 1) fits_pile
  rw [hits_own_pile, hits_other_pile] at hkept hdropped hanswer
  rw [hits_other_pile] at hperm
  exact ⟨fits_pile, hkept, hdropped, hanswer.2 ⟨List.cons_ne_nil _ _, by decide⟩, hperm⟩

end Simulation

end RagdollDynamics
