import RagdollDynamics.Simulation.Basic

/-!
# Membership

How entities and ragdolls join and leave a simulation.  A member's slot in the world records the
simulation as its owner; no slot that another simulation owns is ever touched.  A ragdoll among the
others carries the mass scale of the simulation while it is a member.
-/

namespace RagdollDynamics

/-- What a request to join leads to: the refusal, if it was refused, and simulation and world
afterwards. -/
structure Outcome (k : HandleKind) (K : Type) where
  refusal : Option (Refusal k)
  sim : Simulation K
  world : World K

namespace Simulation

variable {K : Type} [Scalar K]

def admitEntity (s : Simulation K) (w : World K) (id : EntityId) :
    Except Violation (Outcome .entity K) :=
  match s.entities.admission s.id s.config.maxEntities (w.entities.record? id) id with
  | .refused why => .ok ⟨some why, s, w⟩
  | .inPlace => .ok ⟨none, s, w⟩
  | .stale => .error (.staleOwner _ id)
  | .granted =>
    .ok ⟨none, { s with entities := s.entities.join id },
      { w with entities := w.entities.claim id s.id }⟩

/-- Asks for a ragdoll to join the others, which gives it their mass scale. -/
def admitRagdoll (s : Simulation K) (w : World K) (id : RagdollId) :
    Except Violation (Outcome .ragdoll K) :=
  match s.ragdolls.admission s.id s.config.maxRagdolls (w.ragdolls.record? id) id with
  | .refused why => .ok ⟨some why, s, w⟩
  | .inPlace => .ok ⟨none, s, w⟩
  | .stale => .error (.staleOwner _ id)
  | .granted =>
    .ok ⟨none, { s with ragdolls := s.ragdolls.join id },
      { w with ragdolls := w.ragdolls.claim id s.id }.rescaleRagdoll s.config.otherMassScale id⟩

def releaseEntity (s : Simulation K) (w : World K) (id : EntityId) : World K :=
  { w with entities := w.entities.release s.id id }

def releaseRagdoll (s : Simulation K) (w : World K) (id : RagdollId) : World K :=
  { w with ragdolls := w.ragdolls.release s.id id }

/-- Leaves the place of the primary entity empty; the contacts of its shapes are forgotten. -/
def unseatEntity (s : Simulation K) (w : World K) : Simulation K × World K :=
  match s.entities.primary with
  | none => (s, w)
  | some old =>
    ({ s with entities := s.entities.seat none }.forgetEntity w old, s.releaseEntity w old)

def unseatRagdoll (s : Simulation K) (w : World K) : Simulation K × World K :=
  match s.ragdolls.primary with
  | none => (s, w)
  | some old => ({ s with ragdolls := s.ragdolls.seat none }, s.releaseRagdoll w old)

def promoteEntity (s : Simulation K) (w : World K) (id : EntityId) :
    Except Violation (Outcome .entity K) :=
  match s.entities.promotion s.id (w.entities.record? id) id with
  | .refused why => .ok ⟨some why, s, w⟩
  | .inPlace => .ok ⟨none, s, w⟩
  | .stale => .error (.staleOwner _ id)
  | .granted =>
    let left := s.unseatEntity w
    .ok ⟨none, { left.1 with entities := left.1.entities.seat (some id) },
      { left.2 with entities := left.2.entities.claim id s.id }⟩

def promoteRagdoll (s : Simulation K) (w : World K) (id : RagdollId) :
    Except Violation (Outcome .ragdoll K) :=
  match s.ragdolls.promotion s.id (w.ragdolls.record? id) id with
  | .refused why => .ok ⟨some why, s, w⟩
  | .inPlace => .ok ⟨none, s, w⟩
  | .stale => .error (.staleOwner _ id)
  | .granted =>
    let left := s.unseatRagdoll w
    .ok ⟨none, { left.1 with ragdolls := left.1.ragdolls.seat (some id) },
      { left.2 with ragdolls := left.2.ragdolls.claim id s.id }⟩

def setEntity (s : Simulation K) (w : World K) (id : Option EntityId) :
    Except Violation (Outcome .entity K) :=
  match id with
  | some id => s.promoteEntity w id
  | none => .ok ⟨none, (s.unseatEntity w).1, (s.unseatEntity w).2⟩

def setRagdoll (s : Simulation K) (w : World K) (id : Option RagdollId) :
    Except Violation (Outcome .ragdoll K) :=
  match id with
  | some id => s.promoteRagdoll w id
  | none => .ok ⟨none, (s.unseatRagdoll w).1, (s.unseatRagdoll w).2⟩

/-- Removes an entity, whichever place it has; the contacts of its shapes are forgotten. -/
def dismissEntity (s : Simulation K) (w : World K) (id : EntityId) : Simulation K × World K :=
  if s.entities.contains id then
    ({ s with entities := s.entities.leave id }.forgetEntity w id, s.releaseEntity w id)
  else (s, w)

/-- Removes a ragdoll, whichever place it has; one of the others gets its mass scale back. -/
def dismissRagdoll (s : Simulation K) (w : World K) (id : RagdollId) : Simulation K × World K :=
  if s.ragdolls.primary = some id then
    ({ s with ragdolls := s.ragdolls.leave id }, s.releaseRagdoll w id)
  else if id ∈ s.ragdolls.others then
    ({ s with ragdolls := s.ragdolls.leave id }, s.releaseRagdoll (w.rescaleRagdoll 1 id) id)
  else (s, w)

/-- Gives the ragdolls among the others their mass scale back, and ends the ownership of every
member. -/
def releaseMembers (s : Simulation K) (w : World K) : World K :=
  let w := s.ragdolls.others.foldl (fun w id => s.releaseRagdoll (w.rescaleRagdoll 1 id) id) w
  let w := s.ragdolls.primary.toList.foldl s.releaseRagdoll w
  s.entities.members.foldl s.releaseEntity w

def disband (s : Simulation K) (w : World K) : Simulation K × World K :=
  ({ s with
      entities := .empty
      ragdolls := .empty
      contacts := .empty
      collisions := s.collisions.clear },
    s.releaseMembers w)

end Simulation

end RagdollDynamics
