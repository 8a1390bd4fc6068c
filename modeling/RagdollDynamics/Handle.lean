/-!
# Handles

Shapes, entities, ragdolls and simulations are named by handles: 32-bit numbers that carry the
kind of what they name in their type, so that a shape's handle is never taken for an entity's.
-/

namespace RagdollDynamics

inductive HandleKind where
  | shape
  | entity
  | ragdoll
  | simulation
  deriving DecidableEq

def HandleKind.noun : HandleKind → String
  | .shape => "shape"
  | .entity => "entity"
  | .ragdoll => "ragdoll"
  | .simulation => "simulation"

def HandleKind.label : HandleKind → String
  | .shape => "ShapeId"
  | .entity => "EntityId"
  | .ragdoll => "RagdollId"
  | .simulation => "SimulationId"

/-- The number of an object of kind `k`. -/
structure Handle (k : HandleKind) where
  raw : UInt32
  deriving DecidableEq

abbrev ShapeId := Handle .shape

abbrev EntityId := Handle .entity

abbrev RagdollId := Handle .ragdoll

abbrev SimulationId := Handle .simulation

namespace Handle

variable {k : HandleKind}

def index (h : Handle k) : Nat := h.raw.toNat

def ofIndex (n : Nat) : Handle k := ⟨UInt32.ofNat n⟩

/-- The handle as messages write it, such as `EntityId(9)`. -/
def text (h : Handle k) : String := k.label ++ "(" ++ toString h.raw.toNat ++ ")"

instance : LawfulBEq (Handle k) := inferInstance

theorem index_inj {h h' : Handle k} : h.index = h'.index ↔ h = h' := by
  cases h
  cases h'
  simp [index, UInt32.toNat_inj]

theorem raw_ne {a b : Handle k} (h : a ≠ b) : a.raw ≠ b.raw :=
  fun he => h (index_inj.1 (congrArg UInt32.toNat he))

theorem index_ofIndex {n : Nat} (fits : n < UInt32.size) : (ofIndex n : Handle k).index = n :=
  UInt32.toNat_ofNat_of_lt' fits

end Handle

end RagdollDynamics
