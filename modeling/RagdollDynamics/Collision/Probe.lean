import RagdollDynamics.Geometry.RayCast
import RagdollDynamics.Shape

/-!
# Ray probes

A probe carries a ray through lists of shapes and keeps the nearest hit.  A hit replaces the one
it has only if it is strictly nearer, and at first anything nearer than its reach counts.
-/

namespace RagdollDynamics

/-- A ray and the nearest hit it has met so far. -/
structure Probe (K : Type) extends Ray K where
  reach : K
  /-- The distance of the nearest hit, or the reach while there is none. -/
  distance : K
  normal : Vec3 K
  shape : Option ShapeId

namespace Probe

variable {K : Type} [Scalar K]

/-- A probe from a point along `v`, or down where `v` has no direction. -/
def along (origin v : Vec3 K) (reach : K) : Probe K where
  origin := origin
  direction := v.directionOr .down
  reach := reach
  distance := reach
  normal := 0
  shape := none

def downward (origin : Vec3 K) (reach : K) : Probe K := along origin .down reach

def hasHit (p : Probe K) : Bool := p.shape.isSome

def hitPoint (p : Probe K) : Vec3 K := p.point p.distance

def beats (p : Probe K) (distance : K) : Bool := 0 ≤ distance ∧ distance < p.distance

def hit? (p : Probe K) (shapes : Shapes K) (id : ShapeId) : Option (RayHit K) :=
  (shapes.find? id).bind fun s => p.toRay.hit? s.toSolid

/-- Tests one shape: whether it was hit nearer than before, and the probe afterwards. -/
def meet (p : Probe K) (shapes : Shapes K) (id : ShapeId) : Bool × Probe K :=
  match p.hit? shapes id with
  | none => (false, p)
  | some h =>
    if p.beats h.distance then
      (true, { p with distance := h.distance, normal := h.normal, shape := some id })
    else (false, p)

/-- Tests a list of shapes: whether any was hit nearer than before, and the probe afterwards. -/
def cast (p : Probe K) (shapes : Shapes K) : List ShapeId → Bool × Probe K
  | [] => (false, p)
  | id :: rest =>
    let step := p.meet shapes id
    let last := step.2.cast shapes rest
    (step.1 || last.1, last.2)

end Probe

end RagdollDynamics
