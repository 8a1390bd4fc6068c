import RagdollDynamics.Collision.Basic

/-!
# Contacts

A contact is the memory of a pair of shapes that keeps colliding.  It remembers where the pair
touched, as one anchor on each shape, so that the pair can be pushed apart and kept from sliding
before the next detection.  The two shapes stand in the order of their handles, and the normal
points from the lower into the upper one.
-/

namespace RagdollDynamics

/-- A pair of shapes that collided. -/
structure Contact (K : Type) where
  lower : ShapeId
  upper : ShapeId
  frame : UInt32
  /-- The unit direction from the lower shape into the upper one. -/
  normal : Vec3 K
  /-- Where the contact is anchored on the lower shape, from that shape's position. -/
  lowerAnchor : Vec3 K
  upperAnchor : Vec3 K
  /-- The part of a correction that the lower shape takes. -/
  lowerShare : K
  upperShare : K
  /-- The depth that presses the pair together; it bounds friction. -/
  pressure : K
  friction : K
  /-- How far the anchors may overlap before they are pushed apart. -/
  allowance : K

namespace Contact

variable {K : Type} [Scalar K]

def involves (c : Contact K) (id : ShapeId) : Bool := c.lower = id ∨ c.upper = id

def isImmovable (c : Contact K) : Bool := c.lowerShare == 0 && c.upperShare == 0

/-- Takes normal, anchors, shares, pressure and friction from a collision of the pair.  A collision
without a direction leaves the normal to the one the contact has.  Nothing changes if a shape is
missing. -/
def anchor (c : Contact K) (hit : Collision K) (shapes : Shapes K) : Contact K :=
  match shapes.find? c.lower, shapes.find? c.upper with
  | some s, some t =>
    let onFirst := hit.point
    let onSecond := hit.point - hit.penetration
    let inward := hit.penetration.directionOr c.normal
    let inOrder := hit.first = c.lower
    let total := s.inverseMass + t.inverseMass
    { c with
      normal := if inOrder then inward else -inward
      lowerAnchor := (if inOrder then onFirst else onSecond) - s.position
      upperAnchor := (if inOrder then onSecond else onFirst) - t.position
      lowerShare := if 0 < total then s.inverseMass / total else 0
      upperShare := if 0 < total then t.inverseMass / total else 0
      friction := s.material.frictionWith t.material
      pressure := hit.depth }
  | _, _ => c

def renew (c : Contact K) (hit : Collision K) (frame : UInt32) (shapes : Shapes K) : Contact K :=
  { c with frame := frame }.anchor hit shapes

def blank (a b : ShapeId) (frame : UInt32) (allowance : K) : Contact K where
  lower := if b.raw < a.raw then b else a
  upper := if b.raw < a.raw then a else b
  frame := frame
  normal := .up
  lowerAnchor := 0
  upperAnchor := 0
  lowerShare := 0
  upperShare := 0
  pressure := 0
  friction := 0
  allowance := Scalar.max allowance 0

/-- The contact that starts with a collision.  There is none without a second shape, or if one of
the two is missing. -/
def start? (hit : Collision K) (frame : UInt32) (shapes : Shapes K) (allowance : K) :
    Option (Contact K) :=
  hit.second.bind fun b =>
    (shapes.find? hit.first).bind fun _ => (shapes.find? b).map fun _ =>
      (blank hit.first b frame allowance).anchor hit shapes

/-- The displacement from the upper anchor to the lower one, if both shapes exist. -/
def separation? (c : Contact K) (shapes : Shapes K) : Option (Vec3 K) :=
  (shapes.position? c.lower).bind fun p => (shapes.position? c.upper).map fun q =>
    p + c.lowerAnchor - (q + c.upperAnchor)

/-- Moves the shapes apart by `v`: the lower one against it, the upper one along it, each by its
share. -/
def spread (c : Contact K) (v : Vec3 K) (shapes : Shapes K) : Shapes K :=
  (shapes.modify c.lower fun s => s.moveBy (-(v * c.lowerShare))).modify c.upper
    fun s => s.moveBy (v * c.upperShare)

/-- Pushes the pair apart where its anchors overlap by more than the allowance: the overlap that
was found, the contact and the shapes afterwards.  The allowance remains, so that a resting pair
keeps colliding. -/
def enforce (c : Contact K) (shapes : Shapes K) : K × Contact K × Shapes K :=
  if c.isImmovable then (0, c, shapes)
  else
    match c.separation? shapes with
    | none => (0, c, shapes)
    | some v =>
      let overlap := v.dot c.normal
      let excess := overlap - c.allowance
      if excess ≤ Scalar.tolerance then (0, c, shapes)
      else
        (overlap, { c with pressure := c.pressure + excess },
          c.spread (c.normal * excess) shapes)

/-- The part of a slip that friction undoes: all of it, up to `bound` in length. -/
def grip (slip : Vec3 K) (bound : K) : Vec3 K :=
  if slip.length ≤ bound then slip else slip * (bound / slip.length)

/-- Resists sliding of the anchors along the surface: slip up to friction times pressure is
undone, and the rest is let through, the upper anchor following it. -/
def rub (c : Contact K) (shapes : Shapes K) : Contact K × Shapes K :=
  if c.isImmovable ∨ c.friction ≤ 0 then (c, shapes)
  else
    match c.separation? shapes with
    | none => (c, shapes)
    | some v =>
      let along := v.dot c.normal
      if along < -c.allowance then (c, shapes)
      else
        let slip := v - c.normal * along
        if slip.length < Scalar.tolerance then (c, shapes)
        else
          let held := grip slip (c.friction * c.pressure)
          ({ c with upperAnchor := c.upperAnchor + (slip - held) }, c.spread held shapes)

end Contact

end RagdollDynamics
