import RagdollDynamics.Arena
import RagdollDynamics.Material
import RagdollDynamics.Geometry.Solid

/-!
# Shapes

A shape is a solid with a mass and a surface.  Collisions never move a shape directly: they leave
corrections with it, and `Shape.settle` moves it once, by the mean of what it was left.
-/

namespace RagdollDynamics

/-- A solid that can collide. -/
structure Shape (K : Type) extends Solid K where
  /-- In kilograms; a shape of zero or infinite mass is immovable. -/
  mass : K
  material : Material K
  /-- The factor by which a ragdoll makes its shapes heavier. -/
  massScale : K
  holder : Option EntityId
  /-- The sum of the corrections that wait to be applied. -/
  pending : Vec3 K
  pendingCount : Nat

namespace Shape

variable {K : Type} [Scalar K]

def ofForm (form : Form K) (mass : K) : Shape K where
  form := form
  position := 0
  rotation := .identity
  mass := mass
  material := .standard
  massScale := 1
  holder := none
  pending := 0
  pendingCount := 0

def effectiveMass (s : Shape K) : K := s.mass * s.massScale

/-- How readily the shape moves: the inverse of its effective mass, zero if it is immovable. -/
def inverseMass (s : Shape K) : K :=
  if 0 < s.effectiveMass ∧ Scalar.isFinite s.effectiveMass then 1 / s.effectiveMass else 0

def isImmovable (s : Shape K) : Bool := s.inverseMass == 0

/-- Changes the mass scale; a scale below the smallest admitted one is raised to it. -/
def rescale (s : Shape K) (scale : K) : Shape K :=
  { s with massScale := Scalar.max scale Scalar.ulp }

def moveBy (s : Shape K) (v : Vec3 K) : Shape K := { s with position := s.position + v }

def leave (s : Shape K) (correction : Vec3 K) : Shape K :=
  { s with pending := s.pending + correction, pendingCount := s.pendingCount + 1 }

/-- Moves the shape by the mean of the corrections it was left, and forgets them. -/
def settle (s : Shape K) : Shape K :=
  if s.pendingCount = 0 then s
  else
    { s with
      position := s.position + s.pending / (s.pendingCount : K)
      pending := 0
      pendingCount := 0 }

end Shape

abbrev Shapes (K : Type) := Arena .shape (Shape K)

namespace Shapes

variable {K : Type} [Scalar K]

def position? (shapes : Shapes K) (id : ShapeId) : Option (Vec3 K) :=
  (shapes.find? id).map fun s => s.position

/-- How readily a shape moves; a shape that does not exist is immovable. -/
def inverseMass (shapes : Shapes K) (id : ShapeId) : K :=
  ((shapes.find? id).map Shape.inverseMass).getD 0

end Shapes

end RagdollDynamics
