import RagdollDynamics.Geometry.Solid

/-!
# Overlap of two solids

Two solids overlap where one reaches into the other.  Every pair is reduced to two balls, or to a
ball and a plane: the balls of two rounded solids that come closest to each other, or the ball of
a rounded solid that reaches deepest behind the plane.  Two planes never overlap.
-/

namespace RagdollDynamics

/-- How a first solid reaches into a second one. -/
structure Overlap (K : Type) where
  /-- The deepest point of the first solid inside the second, on the surface of the first. -/
  point : Vec3 K
  /-- Points from the first solid into the second; its length is the depth. -/
  penetration : Vec3 K

variable {K : Type} [Scalar K]

/-- The same overlap, told from the second solid. -/
def Overlap.swapped (o : Overlap K) : Overlap K := ⟨o.point - o.penetration, -o.penetration⟩

namespace Ball

/-- The overlap of two balls.  Concentric balls are separated along the vertical. -/
def overlapBall? (a b : Ball K) : Option (Overlap K) :=
  let between := b.center - a.center
  let distSq := between.lengthSq
  let reach := a.radius + b.radius
  if reach * reach ≤ distSq then none
  else
    let dist := Scalar.sqrt distSq
    let normal := if Scalar.tolerance < dist then between / dist else .up
    some ⟨a.center + normal * a.radius, normal * (reach - dist)⟩

def overlapPlane? (a : Ball K) (s : Plane K) : Option (Overlap K) :=
  let dist := s.signedDistance a.center
  if a.radius ≤ dist then none
  else some ⟨a.center - s.normal * a.radius, -s.normal * (a.radius - dist)⟩

end Ball

namespace Solid

def nearestBalls? (a b : Solid K) : Option (Ball K × Ball K) :=
  match a.form, b.form with
  | .sphere r, .sphere s => some (⟨a.position, r⟩, ⟨b.position, s⟩)
  | .sphere r, .capsule s h =>
    some (⟨a.position, r⟩, ⟨(capsuleCore h b.position b.rotation).nearestTo a.position, s⟩)
  | .capsule r h, .sphere s =>
    some (⟨(capsuleCore h a.position a.rotation).nearestTo b.position, r⟩, ⟨b.position, s⟩)
  | .capsule r h, .capsule s k =>
    let p := (capsuleCore h a.position a.rotation).nearestPoints
      (capsuleCore k b.position b.rotation)
    some (⟨p.1, r⟩, ⟨p.2, s⟩)
  | _, _ => none

/-- The ball of a rounded solid that reaches deepest behind a plane.  A capsule whose ends are
equally deep touches along its whole length, and its middle stands for it. -/
def deepestBall? (a : Solid K) (s : Plane K) : Option (Ball K) :=
  match a.form with
  | .sphere r => some ⟨a.position, r⟩
  | .capsule r h =>
    let core := capsuleCore h a.position a.rotation
    let d := s.signedDistance core.start
    let e := s.signedDistance core.finish
    let center :=
      if Scalar.abs (d - e) < Scalar.tolerance then a.position
      else if d < e then core.start else core.finish
    some ⟨center, r⟩
  | .plane _ => none

/-- How the rounded solid `a` reaches behind the plane with normal `n` in the frame of `b`. -/
def overlapFace? (a b : Solid K) (n : Vec3 K) : Option (Overlap K) :=
  let face : Plane K := ⟨b.position, b.rotation.apply n⟩
  (a.deepestBall? face).bind fun ball => ball.overlapPlane? face

def overlap? (a b : Solid K) : Option (Overlap K) :=
  match a.form, b.form with
  | .plane _, .plane _ => none
  | .plane n, _ => (b.overlapFace? a n).map .swapped
  | _, .plane n => a.overlapFace? b n
  | _, _ => (a.nearestBalls? b).bind fun balls => balls.1.overlapBall? balls.2

end Solid

end RagdollDynamics
