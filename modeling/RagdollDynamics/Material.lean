import RagdollDynamics.Scalar

/-!
# Surface materials
-/

namespace RagdollDynamics

structure Material (K : Type) where
  friction : K

namespace Material

variable {K : Type} [Scalar K]

def standard : Material K := ⟨0.5⟩

/-- The material with the given friction, or none at all where that is negative. -/
def ofFriction (friction : K) : Material K := ⟨Scalar.max friction 0⟩

/-- The friction between two materials, the geometric mean of theirs. -/
def frictionWith (a b : Material K) : K := Scalar.sqrt (a.friction * b.friction)

end Material

end RagdollDynamics
