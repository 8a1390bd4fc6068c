import RagdollDynamics.Scalar

/-!
# Vectors of three components

Componentwise arithmetic, products, length and direction.  Sums of products are grouped from the
left, so that a result in single precision is fixed to the last bit.
-/

namespace RagdollDynamics

/-- A point of space or a displacement. -/
@[ext]
structure Vec3 (K : Type) where
  x : K
  y : K
  z : K

namespace Vec3

variable {K : Type} [Scalar K]

instance : Zero (Vec3 K) := ⟨⟨0, 0, 0⟩⟩

instance : Add (Vec3 K) := ⟨fun a b => ⟨a.x + b.x, a.y + b.y, a.z + b.z⟩⟩

instance : Sub (Vec3 K) := ⟨fun a b => ⟨a.x - b.x, a.y - b.y, a.z - b.z⟩⟩

instance : Neg (Vec3 K) := ⟨fun a => ⟨-a.x, -a.y, -a.z⟩⟩

instance : HMul (Vec3 K) K (Vec3 K) := ⟨fun a s => ⟨a.x * s, a.y * s, a.z * s⟩⟩

instance : HDiv (Vec3 K) K (Vec3 K) := ⟨fun a s => ⟨a.x / s, a.y / s, a.z / s⟩⟩

instance : BEq (Vec3 K) := ⟨fun a b => a.x == b.x && a.y == b.y && a.z == b.z⟩

def up : Vec3 K := ⟨0, 1, 0⟩

def down : Vec3 K := ⟨0, -1, 0⟩

def dot (a b : Vec3 K) : K := a.x * b.x + a.y * b.y + a.z * b.z

def cross (a b : Vec3 K) : Vec3 K :=
  ⟨a.y * b.z - a.z * b.y, a.z * b.x - a.x * b.z, a.x * b.y - a.y * b.x⟩

def lengthSq (a : Vec3 K) : K := a.dot a

def length (a : Vec3 K) : K := Scalar.sqrt a.lengthSq

def distance (a b : Vec3 K) : K := (a - b).length

/-- The unit vector along `a`, unless the inverse of its length is zero or not finite. -/
def direction? (a : Vec3 K) : Option (Vec3 K) :=
  let r := 1 / a.length
  if Scalar.isFinite r ∧ 0 < r then some (a * r) else none

/-- The unit vector along `a`, or `fallback` where `a` has no direction. -/
def directionOr (a fallback : Vec3 K) : Vec3 K := a.direction?.getD fallback

end Vec3

end RagdollDynamics
