import RagdollDynamics.Geometry.Rotation
import RagdollDynamics.Geometry.Segment
import RagdollDynamics.Violation

/-!
# Solids

A solid is a form placed in space.  A sphere is a ball around a point, a capsule is all that lies
within its radius of a core segment, and a plane is the half-space behind its surface.
-/

namespace RagdollDynamics

/-- What a solid is, in its own frame. -/
inductive Form (K : Type) where
  | sphere (radius : K)
  /-- The points within `radius` of the segment of half length `halfHeight` along the vertical. -/
  | capsule (radius halfHeight : K)
  /-- The points behind the plane through the origin, away from `normal`. -/
  | plane (normal : Vec3 K)

namespace Form

variable {K : Type} [Scalar K]

def sphere? (radius : K) : Except Violation (Form K) :=
  if 0 ≤ radius then .ok (.sphere radius) else .error .negativeSphereRadius

def capsule? (radius halfHeight : K) : Except Violation (Form K) :=
  if 0 ≤ radius then
    if 0 ≤ halfHeight then .ok (.capsule radius halfHeight) else .error .negativeHalfHeight
  else .error .negativeCapsuleRadius

/-- The plane that faces along `v`, or up where `v` has no direction. -/
def facing (v : Vec3 K) : Form K := .plane (v.directionOr .up)

end Form

/-- The core of a capsule placed in space, from its bottom to its top. -/
def capsuleCore {K : Type} [Scalar K] (halfHeight : K) (position : Vec3 K) (rotation : Rotation K) :
    Segment K :=
  let halfAxis := rotation.apply .up * halfHeight
  ⟨position - halfAxis, position + halfAxis⟩

/-- A plane placed in space: a point of it and the direction it faces. -/
structure Plane (K : Type) where
  point : Vec3 K
  normal : Vec3 K

/-- The distance of `p` from the plane, positive on the side it faces. -/
def Plane.signedDistance {K : Type} [Scalar K] (s : Plane K) (p : Vec3 K) : K :=
  (p - s.point).dot s.normal

structure Ball (K : Type) where
  center : Vec3 K
  radius : K

structure Solid (K : Type) where
  form : Form K
  position : Vec3 K
  rotation : Rotation K

end RagdollDynamics
