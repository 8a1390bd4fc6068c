import RagdollDynamics.Clock
import RagdollDynamics.Collision.Enumeration
import RagdollDynamics.Collision.Probe
import RagdollDynamics.Config
import RagdollDynamics.Contact.Table
import RagdollDynamics.Simulation.Roster
import RagdollDynamics.World

/-!
# Simulations

A simulation steps one primary entity and one primary ragdoll together with the entities and
ragdolls around them.  It holds handles, contacts and the collisions of the last detection; the
objects themselves stay in the world, which every operation takes and gives back.
-/

namespace RagdollDynamics

/-- The state of a simulation. -/
structure Simulation (K : Type) where
  id : SimulationId
  config : Config K
  clock : Clock
  entities : Roster .entity
  ragdolls : Roster .ragdoll
  contacts : ContactTable K
  collisions : CollisionBuffer K
  /-- The number of the last step; it starts over after the largest 32-bit number. -/
  frame : UInt32
  /-- Where the frame of the simulation sits in the world. -/
  origin : Vec3 K

namespace Simulation

variable {K : Type} [Scalar K]

def fresh (id : SimulationId) (config : Config K) (clock : Clock) : Simulation K where
  id := id
  config := config
  clock := clock
  entities := .empty
  ragdolls := .empty
  contacts := .empty
  collisions := .ofCapacity config.maxCollisions
  frame := 0
  origin := 0

def forgetShape (s : Simulation K) (id : ShapeId) : Simulation K :=
  { s with contacts := s.contacts.keep fun c => !c.involves id }

def forgetEntity (s : Simulation K) (w : World K) (id : EntityId) : Simulation K :=
  { s with contacts := s.contacts.keep fun c => !(w.entityShapes id).any c.involves }

/-- Forgets the contacts whose pair has not collided for longer than contacts live. -/
def forgetOld (s : Simulation K) : Simulation K :=
  { s with contacts := s.contacts.keep fun c => s.frame - c.frame ≤ s.config.contactLifetime }

def ownCollisions (s : Simulation K) (w : World K) : List (Collision K) :=
  match s.entities.primary.bind w.entities.body? with
  | none => []
  | some e => w.shapes.collisionsWithin e.allows e.shapes

def otherCollisions (s : Simulation K) (w : World K) : List (Collision K) :=
  match s.entities.primary.bind w.entities.body? with
  | none => []
  | some e =>
    s.entities.others.flatMap fun id => w.shapes.collisionsBetween e.shapes (w.entityShapes id)

/-- Detects collisions anew: whether a collision with another entity was kept, and the simulation
with its buffer filled, first by the primary entity's own collisions, then by those with others. -/
def detect (s : Simulation K) (w : World K) : Bool × Simulation K :=
  let own := s.collisions.clear.offerAll (s.ownCollisions w)
  let all := own.2.offerAll (s.otherCollisions w)
  (all.1, { s with collisions := all.2 })

def noteContacts (s : Simulation K) (w : World K) : Simulation K :=
  { s with
    contacts := s.contacts.noteAll s.frame s.config.contactAllowance w.shapes s.collisions.toList }

/-- Pushes every contact apart: the largest overlap found, the simulation and the world
afterwards. -/
def enforceContacts (s : Simulation K) (w : World K) : K × Simulation K × World K :=
  let all := s.contacts.enforce w.shapes
  (all.1, { s with contacts := all.2.1 }, { w with shapes := all.2.2 })

def rubContacts (s : Simulation K) (w : World K) : Simulation K × World K :=
  let all := s.contacts.rub w.shapes
  ({ s with contacts := all.1 }, { w with shapes := all.2 })

def resolve (s : Simulation K) (w : World K) : World K :=
  { w with shapes := Collision.resolveAll s.collisions.toList w.shapes }

/-- Carries a probe through the shapes of every entity besides the primary one: whether any was hit
nearer than before, and the probe afterwards. -/
def probeOthers (s : Simulation K) (w : World K) (p : Probe K) : Bool × Probe K :=
  p.cast w.shapes (s.entities.others.flatMap w.entityShapes)

/-- Collides a shape with every entity besides the primary one: whether any collision was kept, and
the buffer afterwards. -/
def collideOthers (s : Simulation K) (w : World K) (id : ShapeId) (b : CollisionBuffer K) :
    Bool × CollisionBuffer K :=
  b.offerAll (w.shapes.collisionsOf id (s.entities.others.flatMap w.entityShapes))

end Simulation

end RagdollDynamics
