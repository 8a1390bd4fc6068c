import RagdollDynamics.Body.Verlet
import RagdollDynamics.Joint

/-!
# Ragdolls

A jointed ragdoll is a set of particles, the centres of its shapes, advanced by Verlet integration
and held together by joints.  One particle is its root, which is held at a target in the world; the
shapes themselves live in the frame of the simulation that steps the ragdoll.  A puppet is a
ragdoll that something else moves: it only reports an error.
-/

namespace RagdollDynamics

/-- A shape of a ragdoll, and where its centre was a step ago. -/
structure Particle (K : Type) where
  shape : ShapeId
  previous : Vec3 K

structure JointedDoll (K : Type) where
  particles : List (Particle K)
  joints : List (Joint K)
  rootIndex : Nat
  /-- Where the root is held in the world. -/
  target : Vec3 K
  /-- Where the frame of the shapes sits in the world. -/
  frame : Vec3 K
  /-- The movement that the owner should apply to whatever drives the ragdoll. -/
  movement : Vec3 K
  massScale : K
  gravity : Vec3 K
  /-- The part of its velocity that a particle keeps in a step. -/
  damping : K

namespace Particle

variable {K : Type} [Scalar K]

/-- Advances one particle.  The particle of an immovable shape follows its shape. -/
def step (gravity : Vec3 K) (damping dt : K) (p : Particle K) (shapes : Shapes K) :
    Particle K × Shapes K :=
  match shapes.find? p.shape with
  | none => (p, shapes)
  | some s =>
    if s.isImmovable then ({ p with previous := s.position }, shapes)
    else
      let next := Verlet.advance gravity damping dt ⟨s.position, p.previous⟩
      ({ p with previous := next.previous },
        shapes.modify p.shape fun s => { s with position := next.position })

def stepAll (gravity : Vec3 K) (damping dt : K) :
    List (Particle K) → Shapes K → List (Particle K) × Shapes K
  | [], shapes => ([], shapes)
  | p :: rest, shapes =>
    let one := p.step gravity damping dt shapes
    let others := stepAll gravity damping dt rest one.2
    (one.1 :: others.1, others.2)

end Particle

namespace JointedDoll

variable {K : Type} [Scalar K]

def shapes (d : JointedDoll K) : List ShapeId := d.particles.map Particle.shape

/-- The ragdoll at rest over some shapes, rooted in the first one where it is. -/
def atRest (ids : List ShapeId) (shapes : Shapes K) : JointedDoll K where
  particles := ids.map fun id => ⟨id, (shapes.position? id).getD 0⟩
  joints := []
  rootIndex := 0
  target := (ids.head?.bind shapes.position?).getD 0
  frame := 0
  movement := 0
  massScale := 1
  gravity := 0
  damping := 1

/-- Roots the ragdoll in another particle, held where it was last seen. -/
def rootedAt (d : JointedDoll K) (i : Nat) : JointedDoll K :=
  { d with
    rootIndex := i
    target := ((d.particles[i]?).map fun p => p.previous + d.frame).getD d.target }

def root? (d : JointedDoll K) : Option ShapeId := (d.particles[d.rootIndex]?).map Particle.shape

def addJoint (d : JointedDoll K) (j : Joint K) : JointedDoll K :=
  { d with joints := d.joints ++ [j] }

/-- Joins the particles at two positions at the distance they have; nothing happens if there is no
such particle. -/
def connect (d : JointedDoll K) (i j : Nat) (shapes : Shapes K) :
    Except Violation (JointedDoll K) :=
  match d.particles[i]?, d.particles[j]? with
  | some p, some q => (Joint.asPlaced? shapes p.shape q.shape).map d.addJoint
  | _, _ => .ok d

def localTarget (d : JointedDoll K) : Vec3 K := d.target - d.frame

def holdLocally (d : JointedDoll K) (p : Vec3 K) : JointedDoll K :=
  { d with target := p + d.frame }

def step (d : JointedDoll K) (dt : K) (shapes : Shapes K) : JointedDoll K × Shapes K :=
  let moved := Particle.stepAll d.gravity d.damping dt d.particles shapes
  ({ d with particles := moved.1 }, moved.2)

/-- Enforces every joint once: the largest error found, and the shapes afterwards. -/
def enforce (d : JointedDoll K) (shapes : Shapes K) : K × Shapes K :=
  let enforced := Joint.enforceAll d.joints shapes
  (Scalar.greatest enforced.1, enforced.2)

def rescale (d : JointedDoll K) (scale : K) (shapes : Shapes K) :
    JointedDoll K × Shapes K :=
  ({ d with massScale := scale }, shapes.modifyAll d.shapes fun s => s.rescale scale)

/-- Corrections of the root up to this length are drift, and no movement for the owner. -/
def drift : K := 0.02

def rootOffset? (d : JointedDoll K) (shapes : Shapes K) : Option (Vec3 K) :=
  (d.root?.bind shapes.position?).map fun p => d.localTarget - p

/-- Shifts the whole ragdoll, its past included, so that its velocities stay as they are. -/
def shift (d : JointedDoll K) (v : Vec3 K) (shapes : Shapes K) :
    JointedDoll K × Shapes K :=
  ({ d with particles := d.particles.map fun p => { p with previous := p.previous + v } },
    shapes.modifyAll d.shapes fun s => s.moveBy v)

/-- Remembers the shift `v` of the root as movement against it, less the drift. -/
def remember (d : JointedDoll K) (v : Vec3 K) : JointedDoll K :=
  if drift < v.length then { d with movement := d.movement - v * (1 - drift / v.length) } else d

/-- Shifts the ragdoll so that its root is at its target.  With `recording`, the shift is remembered
as movement for the owner. -/
def recenter (d : JointedDoll K) (recording : Bool) (shapes : Shapes K) :
    JointedDoll K × Shapes K :=
  match d.rootOffset? shapes with
  | none => (d, shapes)
  | some v =>
    if v.length ≤ Scalar.tolerance then (d, shapes)
    else
      let shifted := d.shift v shapes
      (if recording then shifted.1.remember v else shifted.1, shifted.2)

def takeMovement (d : JointedDoll K) : Vec3 K × JointedDoll K :=
  (d.movement, { d with movement := 0 })

end JointedDoll

/-- A ragdoll that something else moves. -/
structure Puppet (K : Type) where
  shapes : List ShapeId
  /-- What it reports when its constraints are enforced. -/
  error : K
  massScale : K

/-- An articulated body that simulations step. -/
inductive Ragdoll (K : Type) where
  | jointed (doll : JointedDoll K)
  | puppet (doll : Puppet K)

namespace Ragdoll

variable {K : Type} [Scalar K]

def shapes : Ragdoll K → List ShapeId
  | jointed d => d.shapes
  | puppet d => d.shapes

def massScale : Ragdoll K → K
  | jointed d => d.massScale
  | puppet d => d.massScale

def step (r : Ragdoll K) (dt : K) (shapes : Shapes K) : Ragdoll K × Shapes K :=
  match r with
  | jointed d =>
    let moved := d.step dt shapes
    (jointed moved.1, moved.2)
  | puppet _ => (r, shapes)

def enforce (r : Ragdoll K) (shapes : Shapes K) : K × Shapes K :=
  match r with
  | jointed d => d.enforce shapes
  | puppet d => (d.error, shapes)

/-- Changes the mass scale of a ragdoll; a puppet keeps its shapes as they are. -/
def rescale (r : Ragdoll K) (scale : K) (shapes : Shapes K) : Ragdoll K × Shapes K :=
  match r with
  | jointed d =>
    let scaled := d.rescale scale shapes
    (jointed scaled.1, scaled.2)
  | puppet d => (puppet { d with massScale := scale }, shapes)

def inFrame (r : Ragdoll K) (frame : Vec3 K) : Ragdoll K :=
  match r with
  | jointed d => jointed { d with frame := frame }
  | puppet d => puppet d

def recenter (r : Ragdoll K) (recording : Bool) (shapes : Shapes K) :
    Ragdoll K × Shapes K :=
  match r with
  | jointed d =>
    let centered := d.recenter recording shapes
    (jointed centered.1, centered.2)
  | puppet _ => (r, shapes)

def takeMovement (r : Ragdoll K) : Vec3 K × Ragdoll K :=
  match r with
  | jointed d =>
    let taken := d.takeMovement
    (taken.1, jointed taken.2)
  | puppet d => (0, puppet d)

end Ragdoll

end RagdollDynamics
