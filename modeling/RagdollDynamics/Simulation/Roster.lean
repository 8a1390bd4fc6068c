import RagdollDynamics.Handle

/-!
# Rosters

A roster lists the members of a simulation that are of one kind: at most one primary member, and
the others.  Whether an object may join is decided here, for entities and ragdolls alike, from the
roster and from what the world records about the object.
-/

namespace RagdollDynamics

/-- Why an object could not join a simulation, or take another place in it. -/
inductive Refusal (k : HandleKind) where
  | unknown (id : Handle k)
  | ownedElsewhere (owner : SimulationId)
  /-- The object already has the other place in the simulation. -/
  | otherRole
  | full (capacity : Nat)

def Refusal.message {k : HandleKind} : Refusal k → String
  | unknown id => k.noun ++ " " ++ id.text ++ " does not exist in this world"
  | ownedElsewhere owner => "already simulated by " ++ owner.text
  | otherRole => "already a member of this simulation in the other role"
  | full capacity => k.noun ++ " list is full (" ++ toString capacity ++ ")"

/-- What comes of a request to join. -/
inductive Verdict (k : HandleKind) where
  | refused (why : Refusal k)
  | inPlace
  /-- The simulation is recorded as the owner of an object that is no member of it. -/
  | stale
  | granted

/-- The members of a simulation that are of one kind. -/
structure Roster (k : HandleKind) where
  primary : Option (Handle k)
  others : List (Handle k)

/-- Removes the first occurrence of `a`; the last element of the list takes its place. -/
def swapErase {α : Type} [DecidableEq α] (a : α) : List α → List α
  | [] => []
  | b :: rest =>
    if b = a then (rest.getLast?.map fun z => z :: rest.dropLast).getD []
    else b :: swapErase a rest

namespace Roster

variable {k : HandleKind}

def empty : Roster k := ⟨none, []⟩

/-- All members, the primary one first. -/
def members (r : Roster k) : List (Handle k) := r.primary.toList ++ r.others

def contains (r : Roster k) (id : Handle k) : Bool := r.primary = some id ∨ id ∈ r.others

/-- What comes of `id` asking to join the others of simulation `self`, which takes `capacity` of
them.  `slot` is what the world records as the owner of `id`, if it knows `id` at all. -/
def admission (r : Roster k) (self : SimulationId) (capacity : Nat)
    (slot : Option (Option SimulationId)) (id : Handle k) : Verdict k :=
  match slot with
  | none => .refused (.unknown id)
  | some owner =>
    if r.primary = some id then .refused .otherRole
    else if id ∈ r.others then .inPlace
    else
      match owner with
      | some o =>
        if o ≠ self then .refused (.ownedElsewhere o)
        else if capacity ≤ r.others.length then .refused (.full capacity)
        else .stale
      | none => if capacity ≤ r.others.length then .refused (.full capacity) else .granted

/-- What comes of `id` asking to become the primary member of simulation `self`. -/
def promotion (r : Roster k) (self : SimulationId) (slot : Option (Option SimulationId))
    (id : Handle k) : Verdict k :=
  if r.primary = some id then .inPlace
  else
    match slot with
    | none => .refused (.unknown id)
    | some owner =>
      if id ∈ r.others then .refused .otherRole
      else
        match owner with
        | some o => if o ≠ self then .refused (.ownedElsewhere o) else .stale
        | none => .granted

def join (r : Roster k) (id : Handle k) : Roster k := { r with others := r.others ++ [id] }

def seat (r : Roster k) (id : Option (Handle k)) : Roster k := { r with primary := id }

def leave (r : Roster k) (id : Handle k) : Roster k :=
  if r.primary = some id then r.seat none else { r with others := swapErase id r.others }

end Roster

end RagdollDynamics
