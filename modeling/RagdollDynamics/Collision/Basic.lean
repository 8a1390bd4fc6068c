import RagdollDynamics.Collision.Pair
import RagdollDynamics.Geometry.Overlap
import RagdollDynamics.Shape

/-!
# Collisions

A collision records that a shape reached into another one.  It is answered by leaving each shape a
correction in proportion to how readily that shape moves, so that together they undo the
penetration.
-/

namespace RagdollDynamics

/-- One shape found inside another. -/
structure Collision (K : Type) extends Overlap K where
  /-- The shape that was tested. -/
  first : ShapeId
  /-- The shape it reaches into; absent for an obstacle outside the world's shapes. -/
  second : Option ShapeId

namespace Collision

variable {K : Type} [Scalar K]

def depth (c : Collision K) : K := c.penetration.length

def key? (c : Collision K) : Option ShapePair := c.second.map fun b => .of c.first b

def parties (c : Collision K) : List ShapeId := c.first :: c.second.toList

def secondInverseMass (c : Collision K) (shapes : Shapes K) : K :=
  (c.second.map shapes.inverseMass).getD 0

def pushSecond (c : Collision K) (share : K) (shapes : Shapes K) : Shapes K :=
  shapes.modifyAll c.second.toList fun s => s.leave (c.penetration * share)

def pushFirst (c : Collision K) (share : K) (shapes : Shapes K) : Shapes K :=
  shapes.modify c.first fun s => s.leave (-c.penetration * share)

/-- Leaves both shapes the corrections that undo the penetration, each in proportion to its
inverse mass.  Nothing happens if the first shape is missing or neither can move. -/
def correct (c : Collision K) (shapes : Shapes K) : Shapes K :=
  match shapes.find? c.first with
  | none => shapes
  | some a =>
    let wa := a.inverseMass
    let wb := c.secondInverseMass shapes
    let total := wa + wb
    if total ≤ 0 then shapes
    else
      let shapes := if 0 < wb then c.pushSecond (wb / total) shapes else shapes
      if 0 < wa then c.pushFirst (wa / total) shapes else shapes

/-- Answers a list of collisions: first every correction is left, in order, then every shape that
took part settles.  A shape that settles twice moves once, for the second time it has nothing
left to apply. -/
def resolveAll (cs : List (Collision K)) (shapes : Shapes K) : Shapes K :=
  (cs.foldl (fun s c => c.correct s) shapes).modifyAll (cs.flatMap parties) Shape.settle

end Collision

end RagdollDynamics
