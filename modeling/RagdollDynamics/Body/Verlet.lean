import RagdollDynamics.Geometry.Vec3

/-!
# Verlet integration

A point whose velocity is not stored but implied by where it was a step ago.
-/

namespace RagdollDynamics

/-- Where a point is, and where it was a step ago. -/
@[ext]
structure Verlet (K : Type) where
  position : Vec3 K
  previous : Vec3 K

namespace Verlet

variable {K : Type} [Scalar K]

def velocity (p : Verlet K) : Vec3 K := p.position - p.previous

/-- Advances a point by a time `dt`; `damping` is the part of the velocity that it keeps. -/
def advance (acceleration : Vec3 K) (damping dt : K) (p : Verlet K) : Verlet K where
  position := p.position + (p.velocity * damping + acceleration * (dt * dt))
  previous := p.position

end Verlet

end RagdollDynamics
