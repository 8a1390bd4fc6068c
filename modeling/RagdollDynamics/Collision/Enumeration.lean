import RagdollDynamics.Collision.Buffer

/-!
# Detection

Which shapes of a world overlap, as lists in a fixed order: the order in which the pairs are
tested.  A pair is tested if both handles name shapes and they are not the same handle.
-/

namespace RagdollDynamics

namespace Shapes

variable {K : Type} [Scalar K]

def collision? (shapes : Shapes K) (a b : ShapeId) : Option (Collision K) :=
  if a = b then none
  else
    (shapes.find? a).bind fun s => (shapes.find? b).bind fun t =>
      (s.toSolid.overlap? t.toSolid).map fun o => ⟨o, a, some b⟩

def collisionsOf (shapes : Shapes K) (a : ShapeId) (others : List ShapeId) :
    List (Collision K) :=
  others.filterMap (shapes.collision? a)

/-- The collisions between two lists of shapes, in the order of the first, then the second. -/
def collisionsBetween (shapes : Shapes K) (as bs : List ShapeId) : List (Collision K) :=
  as.flatMap fun a => shapes.collisionsOf a bs

/-- The pairs of a list's members at positions `i < j` that `enabled` allows, in the order of `i`,
then `j`; `start` is the position of the first member. -/
def allowedPairs (enabled : Nat → Nat → Bool) (start : Nat) :
    List ShapeId → List (ShapeId × ShapeId)
  | [] => []
  | a :: rest =>
    ((rest.zipIdx (start + 1)).filter fun p => enabled start p.2).map (fun p => (a, p.1)) ++
      allowedPairs enabled (start + 1) rest

def collisionsWithin (shapes : Shapes K) (enabled : Nat → Nat → Bool) (ids : List ShapeId) :
    List (Collision K) :=
  (allowedPairs enabled 0 ids).filterMap fun p => shapes.collision? p.1 p.2

end Shapes

end RagdollDynamics
