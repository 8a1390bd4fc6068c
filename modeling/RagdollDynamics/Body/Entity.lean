import RagdollDynamics.Shape

/-!
# Entities

An entity is a set of shapes that collide as one object.  A rigid entity moves its shapes together
with one velocity; scenery has no motion of its own.
-/

namespace RagdollDynamics

/-- Shapes that move together with one linear velocity. -/
structure RigidBody (K : Type) where
  shapes : List ShapeId
  /-- Pairs of positions in `shapes`, the lower first, that do not collide with each other. -/
  disabled : List (Nat × Nat)
  velocity : Vec3 K
  /-- The sum of the forces applied since the last step. -/
  force : Vec3 K
  mass : K
  /-- Zero for a body that never moves. -/
  inverseMass : K

def orderedPair (i j : Nat) : Nat × Nat := (min i j, max i j)

namespace RigidBody

variable {K : Type} [Scalar K]

/-- The body at rest over some shapes.  One without positive mass never moves. -/
def ofMass (mass : K) (shapes : List ShapeId) : RigidBody K where
  shapes := shapes
  disabled := []
  velocity := 0
  force := 0
  mass := Scalar.max mass 0
  inverseMass := if 0 < mass then 1 / mass else 0

def immovable (shapes : List ShapeId) : RigidBody K := ofMass 0 shapes

def allows (b : RigidBody K) (i j : Nat) : Bool := !b.disabled.contains (orderedPair i j)

def disable (b : RigidBody K) (i j : Nat) : RigidBody K :=
  { b with disabled := orderedPair i j :: b.disabled }

def enable (b : RigidBody K) (i j : Nat) : RigidBody K :=
  { b with disabled := b.disabled.filter fun p => p != orderedPair i j }

/-- Applies a force until the next step; a body that never moves ignores it. -/
def push (b : RigidBody K) (force : Vec3 K) : RigidBody K :=
  if 0 < b.inverseMass then { b with force := b.force + force } else b

def clearForce (b : RigidBody K) : RigidBody K := { b with force := 0 }

/-- Turns the applied forces into velocity over a time `dt`, and forgets them. -/
def accelerate (b : RigidBody K) (dt : K) : RigidBody K :=
  if b.inverseMass == 0 then b.clearForce
  else { b with velocity := b.velocity + b.force * b.inverseMass * dt }.clearForce

def displacement (b : RigidBody K) (dt : K) : Vec3 K :=
  if b.inverseMass == 0 then 0 else b.velocity * dt

/-- Advances the body by a time `dt`: velocity first, then all its shapes with the new velocity. -/
def step (b : RigidBody K) (dt : K) (shapes : Shapes K) : RigidBody K × Shapes K :=
  let b := b.accelerate dt
  let v := b.displacement dt
  (b, if v == 0 then shapes else shapes.modifyAll b.shapes fun s => s.moveBy v)

end RigidBody

/-- An object made of shapes that simulations collide. -/
inductive Entity (K : Type) where
  | rigid (body : RigidBody K)
  /-- Shapes all of which may collide with each other, without motion of their own. -/
  | scenery (shapes : List ShapeId)

namespace Entity

variable {K : Type} [Scalar K]

def shapes : Entity K → List ShapeId
  | rigid b => b.shapes
  | scenery ids => ids

def allows : Entity K → Nat → Nat → Bool
  | rigid b => b.allows
  | scenery _ => fun _ _ => true

def step (e : Entity K) (dt : K) (shapes : Shapes K) : Entity K × Shapes K :=
  match e with
  | rigid b =>
    let moved := b.step dt shapes
    (rigid moved.1, moved.2)
  | scenery _ => (e, shapes)

end Entity

end RagdollDynamics
