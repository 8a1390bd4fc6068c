import RagdollDynamics.Scalar

/-!
# Limits and tuning of a simulation
-/

namespace RagdollDynamics

structure Config (K : Type) where
  /-- How many ragdolls besides the primary one a simulation takes. -/
  maxRagdolls : Nat
  /-- How many entities besides the primary one a simulation takes. -/
  maxEntities : Nat
  maxCollisions : Nat
  /-- For how many frames a contact outlives the last collision of its pair. -/
  contactLifetime : UInt32
  /-- The mass scale of the ragdolls besides the primary one, which makes the primary one yield. -/
  otherMassScale : K
  /-- How far a contact may overlap before it is pushed apart. -/
  contactAllowance : K

def Config.standard {K : Type} [Scalar K] : Config K where
  maxRagdolls := 16
  maxEntities := 64
  maxCollisions := 256
  contactLifetime := 2
  otherMassScale := 10.0
  contactAllowance := 0.01

end RagdollDynamics
