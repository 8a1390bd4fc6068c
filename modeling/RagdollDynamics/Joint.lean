import RagdollDynamics.Shape

/-!
# Joints

A joint states where shapes belong relative to each other or to the world.  Enforcing it once
moves its shapes to where the joint holds and tells how far it was from holding.
-/

namespace RagdollDynamics

/-- A constraint on the positions of shapes. -/
inductive Joint (K : Type) where
  /-- The centres of two shapes stay at a distance. -/
  | rod (a b : ShapeId) (length : K)
  /-- The centre of a shape stays at a point. -/
  | pin (shape : ShapeId) (anchor : Vec3 K)

namespace Joint

variable {K : Type} [Scalar K]

def rod? (a b : ShapeId) (length : K) : Except Violation (Joint K) :=
  if 0 ≤ length then .ok (.rod a b length) else .error .negativeDistance

/-- The distance between two shapes, zero if one of them is missing. -/
def gap (shapes : Shapes K) (a b : ShapeId) : K :=
  match shapes.position? a, shapes.position? b with
  | some p, some q => p.distance q
  | _, _ => 0

def asPlaced? (shapes : Shapes K) (a b : ShapeId) : Except Violation (Joint K) :=
  rod? a b (gap shapes a b)

/-- Errors below this one count as none. -/
def slack : K := 1e-7

/-- Brings two shapes to a distance along the line between them, each in proportion to its inverse
mass; shapes at one point part along the vertical.  The answer is the error found. -/
def enforceRod (a b : ShapeId) (length : K) (shapes : Shapes K) : K × Shapes K :=
  if a = b then (0, shapes)
  else
    match shapes.find? a, shapes.find? b with
    | some s, some t =>
      let between := t.position - s.position
      let error := between.length - length
      let total := s.inverseMass + t.inverseMass
      if Scalar.abs error < slack then (0, shapes)
      else if total == 0 then (Scalar.abs error, shapes)
      else
        let axis := if slack < between.length then between / between.length else .up
        let correction := axis * (error / total)
        (Scalar.abs error,
          (shapes.modify a fun x => x.moveBy (correction * s.inverseMass)).modify b
            fun x => x.moveBy (-(correction * t.inverseMass)))
    | _, _ => (0, shapes)

/-- Puts a shape at its anchor.  The answer is the distance it was away. -/
def enforcePin (shape : ShapeId) (anchor : Vec3 K) (shapes : Shapes K) : K × Shapes K :=
  match shapes.position? shape with
  | none => (0, shapes)
  | some p => (p.distance anchor, shapes.modify shape fun x => { x with position := anchor })

def enforce : Joint K → Shapes K → K × Shapes K
  | rod a b length => enforceRod a b length
  | pin shape anchor => enforcePin shape anchor

def enforceAll : List (Joint K) → Shapes K → List K × Shapes K
  | [], shapes => ([], shapes)
  | j :: rest, shapes =>
    let one := j.enforce shapes
    let others := enforceAll rest one.2
    (one.1 :: others.1, others.2)

end Joint

end RagdollDynamics
