import RagdollDynamics.Geometry.Vec3

/-!
# Rotations

A rotation is a quaternion that is used as it is given: only a quaternion of unit length acts as
an isometry, and none is ever normalized here.
-/

namespace RagdollDynamics

/-- A quaternion with vector part `(x, y, z)` and scalar part `w`. -/
@[ext]
structure Rotation (K : Type) where
  x : K
  y : K
  z : K
  w : K

namespace Rotation

variable {K : Type} [Scalar K]

def identity : Rotation K := ⟨0, 0, 0, 1⟩

def axis (q : Rotation K) : Vec3 K := ⟨q.x, q.y, q.z⟩

def apply (q : Rotation K) (v : Vec3 K) : Vec3 K :=
  let b := q.axis
  v * (q.w * q.w - b.dot b) + b * (v.dot b * 2.0) + b.cross v * (q.w * 2.0)

end Rotation

end RagdollDynamics
