import RagdollDynamics.Simulation.Basic

/-!
# What detection finds

Every collision that detection keeps is one of a shape of the primary entity with another existing
shape, of the primary entity itself or of one of the others (`Simulation.faces_of_mem_detect`).
-/

namespace RagdollDynamics

variable {K : Type}

/-! ### Enumeration -/

namespace Shapes

variable [Scalar K] {shapes : Shapes K} {a b : ShapeId} {c : Collision K}

theorem collision?_of_find? {s t : Shape K} (hne : a ≠ b) (hs : shapes.find? a = some s)
    (ht : shapes.find? b = some t) : shapes.collision? a b =
      (s.toSolid.overlap? t.toSolid).map fun o => ⟨o, a, some b⟩ := by
  rw [collision?, if_neg hne, hs, ht, Option.bind_some, Option.bind_some]

theorem collision?_eq_some (h : shapes.collision? a b = some c) :
    c.first = a ∧ c.second = some b ∧ a ≠ b ∧ (shapes.find? a).isSome ∧ (shapes.find? b).isSome := by
  unfold collision? at h
  split at h
  next => exact nomatch h
  next hne =>
    obtain ⟨s, hs, h⟩ := Option.bind_eq_some_iff.1 h
    obtain ⟨t, ht, h⟩ := Option.bind_eq_some_iff.1 h
    obtain ⟨o, -, rfl⟩ := Option.map_eq_some_iff.1 h
    exact ⟨rfl, rfl, hne, by rw [hs]; rfl, by rw [ht]; rfl⟩

theorem exists_of_mem_allowedPairs {enabled : Nat → Nat → Bool} {p : ShapeId × ShapeId} :
    ∀ {start : Nat} {ids : List ShapeId}, p ∈ allowedPairs enabled start ids →
      ∃ i j, i < j ∧ ids[i]? = some p.1 ∧ ids[j]? = some p.2 ∧ enabled (start + i) (start + j)
  | _, [], h => nomatch h
  | start, a :: rest, h => by
    rw [allowedPairs, List.mem_append] at h
    rcases h with h | h
    · obtain ⟨q, hq, rfl⟩ := List.mem_map.1 h
      obtain ⟨hmem, henabled⟩ := List.mem_filter.1 hq
      obtain ⟨hle, hat⟩ := List.mem_zipIdx_iff_le_and_getElem?_sub.1 hmem
      -- the second member is one position further among all members than among the rest
      refine ⟨0, q.2 - (start + 1) + 1, Nat.succ_pos _, rfl, hat, ?_⟩
      have position : start + (q.2 - (start + 1) + 1) = q.2 := by omega
      rwa [position]
    · obtain ⟨i, j, lt, hi, hj, henabled⟩ := exists_of_mem_allowedPairs h
      refine ⟨i + 1, j + 1, Nat.succ_lt_succ lt, hi, hj, ?_⟩
      rwa [← Nat.add_assoc, ← Nat.add_assoc, Nat.add_right_comm, Nat.add_right_comm start j]

theorem mem_of_mem_allowedPairs {enabled : Nat → Nat → Bool} {p : ShapeId × ShapeId} {start : Nat}
    {ids : List ShapeId} (h : p ∈ allowedPairs enabled start ids) : p.1 ∈ ids ∧ p.2 ∈ ids := by
  obtain ⟨i, j, -, hi, hj, -⟩ := exists_of_mem_allowedPairs h
  exact ⟨List.mem_of_getElem? hi, List.mem_of_getElem? hj⟩

theorem exists_of_mem_collisionsWithin {enabled : Nat → Nat → Bool} {ids : List ShapeId}
    (h : c ∈ shapes.collisionsWithin enabled ids) :
    ∃ a ∈ ids, ∃ b ∈ ids, shapes.collision? a b = some c := by
  obtain ⟨p, hp, hc⟩ := List.mem_filterMap.1 h
  obtain ⟨h₁, h₂⟩ := mem_of_mem_allowedPairs hp
  exact ⟨p.1, h₁, p.2, h₂, hc⟩

theorem exists_of_mem_collisionsBetween {as bs : List ShapeId}
    (h : c ∈ shapes.collisionsBetween as bs) :
    ∃ a ∈ as, ∃ b ∈ bs, shapes.collision? a b = some c := by
  obtain ⟨a, ha, h⟩ := List.mem_flatMap.1 h
  obtain ⟨b, hb, hc⟩ := List.mem_filterMap.1 h
  exact ⟨a, ha, b, hb, hc⟩

end Shapes

/-! ### Buffers -/

namespace CollisionBuffer

variable {b : CollisionBuffer K} {c : Collision K}

theorem mem_offer {d : Collision K} (h : c ∈ (b.offer d).2.toList) : c ∈ b.toList ∨ c = d := by
  unfold offer at h
  split at h
  · exact .inl h
  · simpa [toList] using h

theorem mem_offerAll {l : List (Collision K)} (h : c ∈ (b.offerAll l).2.toList) :
    c ∈ b.toList ∨ c ∈ l := by
  induction l generalizing b with
  | nil => exact .inl h
  | cons d l ih =>
    rcases ih h with h | h
    · rcases mem_offer h with h | rfl
      · exact .inl h
      · exact .inr List.mem_cons_self
    · exact .inr (List.mem_cons_of_mem _ h)

end CollisionBuffer

/-! ### Detection -/

namespace Simulation

variable {s : Simulation K} {w : World K} {c : Collision K}

/-- The primary entity lists the shape `a`, and it or one of the others lists the shape `b`. -/
def Faces (s : Simulation K) (w : World K) (a b : ShapeId) : Prop :=
  ∃ p, s.entities.primary = some p ∧ a ∈ w.entityShapes p ∧
    (b ∈ w.entityShapes p ∨ ∃ o ∈ s.entities.others, b ∈ w.entityShapes o)

theorem primary_body?_eq_some {e : Entity K}
    (h : s.entities.primary.bind w.entities.body? = some e) :
    ∃ p, s.entities.primary = some p ∧ w.entityShapes p = e.shapes := by
  obtain ⟨p, hp, he⟩ := Option.bind_eq_some_iff.1 h
  exact ⟨p, hp, by rw [World.entityShapes, he]; rfl⟩

variable [Scalar K]

theorem faces_of_mem_ownCollisions (h : c ∈ s.ownCollisions w) :
    ∃ a b, s.Faces w a b ∧ w.shapes.collision? a b = some c := by
  unfold ownCollisions at h
  split at h
  next => exact nomatch h
  next e he =>
    obtain ⟨p, hp, hshapes⟩ := primary_body?_eq_some he
    obtain ⟨a, ha, b, hb, hc⟩ := Shapes.exists_of_mem_collisionsWithin h
    rw [← hshapes] at ha hb
    exact ⟨a, b, ⟨p, hp, ha, .inl hb⟩, hc⟩

theorem faces_of_mem_otherCollisions (h : c ∈ s.otherCollisions w) :
    ∃ a b, s.Faces w a b ∧ w.shapes.collision? a b = some c := by
  unfold otherCollisions at h
  split at h
  next => exact nomatch h
  next e he =>
    obtain ⟨p, hp, hshapes⟩ := primary_body?_eq_some he
    obtain ⟨o, ho, h⟩ := List.mem_flatMap.1 h
    obtain ⟨a, ha, b, hb, hc⟩ := Shapes.exists_of_mem_collisionsBetween h
    rw [← hshapes] at ha
    exact ⟨a, b, ⟨p, hp, ha, .inr ⟨o, ho, hb⟩⟩, hc⟩

/-- **What detection keeps** joins two different shapes of the world, one of the primary entity and
one that it faces. -/
theorem faces_of_mem_detect (h : c ∈ (s.detect w).2.collisions.toList) :
    ∃ b, c.second = some b ∧ c.first ≠ b ∧ s.Faces w c.first b ∧
      (w.shapes.find? c.first).isSome ∧ (w.shapes.find? b).isSome := by
  have hkept : c ∈ s.ownCollisions w ∨ c ∈ s.otherCollisions w := by
    rcases CollisionBuffer.mem_offerAll h with h | h
    · rcases CollisionBuffer.mem_offerAll h with h | h
      · exact nomatch h
      · exact .inl h
    · exact .inr h
  obtain ⟨a, b, hab, hc⟩ :=
    hkept.elim faces_of_mem_ownCollisions faces_of_mem_otherCollisions
  obtain ⟨rfl, hsecond, hne, ha, hb⟩ := Shapes.collision?_eq_some hc
  exact ⟨b, hsecond, hne, hab, ha, hb⟩

end Simulation

end RagdollDynamics
