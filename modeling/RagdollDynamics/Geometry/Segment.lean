import RagdollDynamics.Geometry.Vec3

/-!
# Line segments

Closest points: on a segment to a point, and on two segments to each other.  Segments shorter than
a tolerance are treated as points, and nearly parallel segments start from an end of the first.
-/

namespace RagdollDynamics

structure Segment (K : Type) where
  start : Vec3 K
  finish : Vec3 K

namespace Segment

variable {K : Type} [Scalar K]

def span (s : Segment K) : Vec3 K := s.finish - s.start

/-- The point at parameter `t`: the start at zero, the other end at one. -/
def point (s : Segment K) (t : K) : Vec3 K := s.start + s.span * t

/-- The parameter in `[0, 1]` of the point of the segment closest to `p`. -/
def nearestParam (s : Segment K) (p : Vec3 K) : K :=
  if s.span.lengthSq < Scalar.tolerance * Scalar.tolerance then 0
  else Scalar.clamp ((p - s.start).dot s.span / s.span.lengthSq) 0 1

def nearestTo (s : Segment K) (p : Vec3 K) : Vec3 K := s.point (s.nearestParam p)

/-- The parameters on `s` and `u` of two points of these segments that are closest to each other.
The parameter on `s` is chosen first, then the one on `u` follows; where that one leaves `[0, 1]`
it stops at the end, and the parameter on `s` follows the end. -/
def nearestParams (s u : Segment K) : K × K :=
  let d₁ := s.span
  let d₂ := u.span
  let r := s.start - u.start
  let a := d₁.lengthSq
  let e := d₂.lengthSq
  let f := d₂.dot r
  let c := d₁.dot r
  if a ≤ Scalar.tolerance then
    (0, if e ≤ Scalar.tolerance then 0 else Scalar.clamp (f / e) 0 1)
  else if e ≤ Scalar.tolerance then
    (Scalar.clamp (-c / a) 0 1, 0)
  else
    let b := d₁.dot d₂
    let denom := a * e - b * b
    let t₁ := if Scalar.tolerance < denom then Scalar.clamp ((b * f - c * e) / denom) 0 1 else 0
    let t₂ := (b * t₁ + f) / e
    if t₂ < 0 then (Scalar.clamp (-c / a) 0 1, 0)
    else if 1 < t₂ then (Scalar.clamp ((b - c) / a) 0 1, 1)
    else (t₁, t₂)

def nearestPoints (s u : Segment K) : Vec3 K × Vec3 K :=
  let t := s.nearestParams u
  (s.point t.1, u.point t.2)

end Segment

end RagdollDynamics
