import RagdollDynamics.Geometry.Solid

/-!
# Rays against solids

Where a ray first meets the surface of a solid.  A ray that starts inside a ball does not meet it.
-/

namespace RagdollDynamics

/-- A half-line; its direction has unit length. -/
structure Ray (K : Type) where
  origin : Vec3 K
  direction : Vec3 K

structure RayHit (K : Type) where
  distance : K
  normal : Vec3 K

variable {K : Type} [Scalar K]

/-- The nearer of two hits; the first one where they are equally far. -/
def RayHit.nearer : Option (RayHit K) → Option (RayHit K) → Option (RayHit K)
  | some a, some b => some (if b.distance < a.distance then b else a)
  | a, none => a
  | none, b => b

namespace Ray

def point (r : Ray K) (t : K) : Vec3 K := r.origin + r.direction * t

def hitBall? (r : Ray K) (ball : Ball K) : Option (RayHit K) :=
  let m := r.origin - ball.center
  let b := m.dot r.direction
  let c := m.lengthSq - ball.radius * ball.radius
  if 0 < c ∧ 0 < b then none
  else
    let discriminant := b * b - c
    if discriminant < 0 then none
    else
      let t := -b - Scalar.sqrt discriminant
      if t < 0 then none
      else some ⟨t, (r.point t - ball.center).directionOr (-r.direction)⟩

/-- Where the ray enters the tube of a given radius around a segment, between the ends of the
segment. -/
def hitTube? (r : Ray K) (core : Segment K) (radius : K) : Option (RayHit K) :=
  let length := core.span.length
  if Scalar.tolerance < length then
    let axis := core.span / length
    let m := r.origin - core.start
    let d := r.direction - axis * r.direction.dot axis
    let e := m - axis * m.dot axis
    let a := d.lengthSq
    if Scalar.tolerance < a then
      let b := e.dot d
      let c := e.lengthSq - radius * radius
      let discriminant := b * b - a * c
      if 0 ≤ discriminant then
        let t := (-b - Scalar.sqrt discriminant) / a
        if 0 ≤ t then
          let hit := r.point t
          let h := (hit - core.start).dot axis
          if 0 ≤ h ∧ h ≤ length then
            some ⟨t, (hit - (core.start + axis * h)).directionOr (-r.direction)⟩
          else none
        else none
      else none
    else none
  else none

/-- Where the ray first meets a capsule: one of its two end balls, or the tube between them. -/
def hitCapsule? (r : Ray K) (core : Segment K) (radius : K) : Option (RayHit K) :=
  let ends := RayHit.nearer (r.hitBall? ⟨core.start, radius⟩) (r.hitBall? ⟨core.finish, radius⟩)
  RayHit.nearer ends (r.hitTube? core radius)

/-- Where the ray meets a plane, from either side; the normal is that of the side it comes from. -/
def hitPlane? (r : Ray K) (s : Plane K) : Option (RayHit K) :=
  let denom := s.normal.dot r.direction
  if Scalar.abs denom < Scalar.tolerance then none
  else
    let t := (s.point - r.origin).dot s.normal / denom
    if t < 0 then none
    else some ⟨t, if denom < 0 then s.normal else -s.normal⟩

def hit? (r : Ray K) (s : Solid K) : Option (RayHit K) :=
  match s.form with
  | .sphere radius => r.hitBall? ⟨s.position, radius⟩
  | .capsule radius h => r.hitCapsule? (capsuleCore h s.position s.rotation) radius
  | .plane n => r.hitPlane? ⟨s.position, s.rotation.apply n⟩

end Ray

end RagdollDynamics
