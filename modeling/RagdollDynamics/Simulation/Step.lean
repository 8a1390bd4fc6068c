import RagdollDynamics.Simulation.Basic

/-!
# Steps

A step advances everything by a time and then relaxes collisions and joints, pass by pass, until
nothing collides, the joints hold well enough, or its budget of passes or of time is used up.
-/

namespace RagdollDynamics

structure StepOrder (K : Type) where
  dt : K
  /-- The error of the joints below which they hold well enough. -/
  minError : K
  /-- How many passes may run; one always does. -/
  maxPasses : UInt32
  /-- How many microseconds the step may take. -/
  maxTime : UInt64

structure StepReport (K : Type) where
  frame : UInt32
  passes : Nat
  /-- The largest error of the joints in the last pass. -/
  error : K
  collisions : Nat
  /-- Whether a pass found the primary entity colliding with another one. -/
  hitOther : Bool
  /-- How many microseconds passed. -/
  elapsed : UInt64

/-- What a number of passes come to. -/
structure Relaxation (K : Type) where
  sim : Simulation K
  world : World K
  passes : Nat
  error : K
  hitOther : Bool
  time : UInt64

namespace Relaxation

variable {K : Type} [Scalar K]

/-- Whether the last pass leaves something to do, with time left until `expiry`. -/
def unfinished (r : Relaxation K) (minError : K) (expiry : UInt64) : Bool :=
  !r.sim.collisions.isEmpty && decide (minError < r.error) && decide (r.time < expiry)

def followedBy (r later : Relaxation K) : Relaxation K :=
  { later with passes := r.passes + later.passes, hitOther := r.hitOther || later.hitOther }

end Relaxation

namespace Simulation

variable {K : Type} [Scalar K]

/-- Advances every entity besides the primary one, then every ragdoll. -/
def integrate (s : Simulation K) (dt : K) (w : World K) : World K :=
  let w := s.entities.others.foldl
    (fun w id => w.actEntity id fun e shapes => e.step dt shapes) w
  s.ragdolls.members.foldl (fun w id => w.actRagdoll id fun r shapes => r.step dt shapes) w

def enforceEach (ragdolls : Slots .ragdoll (Ragdoll K)) :
    List RagdollId → Shapes K → List K × Shapes K
  | [], shapes => ([], shapes)
  | id :: rest, shapes =>
    match ragdolls.body? id with
    | none => enforceEach ragdolls rest shapes
    | some r =>
      let one := r.enforce shapes
      let others := enforceEach ragdolls rest one.2
      (one.1 :: others.1, others.2)

def enforceRagdolls (s : Simulation K) (w : World K) : K × World K :=
  let all := enforceEach w.ragdolls s.ragdolls.members w.shapes
  (Scalar.greatest all.1, { w with shapes := all.2 })

/-- Tells a ragdoll where the frame of the simulation sits, and brings its root to its target. -/
def recenter (s : Simulation K) (recording : Bool) (w : World K) (id : RagdollId) : World K :=
  w.actRagdoll id fun r shapes => (r.inFrame s.origin).recenter recording shapes

/-- Brings the root of every ragdoll to its target.  Only the primary ragdoll remembers the shift,
and only if something was hit. -/
def recenterAll (s : Simulation K) (hitOther : Bool) (w : World K) : World K :=
  s.ragdolls.others.foldl (s.recenter false)
    (s.ragdolls.primary.toList.foldl (s.recenter hitOther) w)

/-- One pass: detects and resolves collisions, enforces joints, applies friction and reads the
clock. -/
def pass (s : Simulation K) (w : World K) : Relaxation K :=
  let found := s.detect w
  let s := found.2.noteContacts w
  let enforced := s.enforceRagdolls (s.resolve w)
  let rubbed := s.rubContacts enforced.2
  { sim := { rubbed.1 with clock := rubbed.1.clock.next }
    world := rubbed.2
    passes := 1
    error := enforced.1
    hitOther := found.1
    time := rubbed.1.clock.now }

/-- Runs one pass, and up to `more` further ones while the last pass leaves something to do. -/
def relax (minError : K) (expiry : UInt64) : Nat → Simulation K → World K → Relaxation K
  | 0, s, w => s.pass w
  | more + 1, s, w =>
    let r := s.pass w
    if r.unfinished minError expiry then r.followedBy (relax minError expiry more r.sim r.world)
    else r

/-- What comes before the first pass: the next frame begins, everything advances, and contacts and
joints are enforced once. -/
def begin (s : Simulation K) (dt : K) (w : World K) : Simulation K × World K :=
  let s := { s with frame := s.frame + 1, clock := s.clock.next }
  let pushed := s.enforceContacts (s.integrate dt w)
  (pushed.2.1, (pushed.2.1.enforceRagdolls pushed.2.2).2)

/-- Advances everything by one step: what it did, and simulation and world afterwards. -/
def step (s : Simulation K) (w : World K) (order : StepOrder K) :
    StepReport K × Simulation K × World K :=
  let start := s.clock.now
  let begun := s.begin order.dt w
  let r := relax order.minError (addTime start order.maxTime) (order.maxPasses.toNat - 1)
    begun.1 begun.2
  let report : StepReport K :=
    { frame := r.sim.frame
      passes := r.passes
      error := r.error
      collisions := r.sim.collisions.size
      hitOther := r.hitOther
      elapsed := timeSince start r.time }
  (report, r.sim.forgetOld, r.sim.recenterAll r.hitOther r.world)

end Simulation

end RagdollDynamics
