import RagdollDynamics.Handle

/-!
# Violated preconditions

An operation whose caller broke its precondition has no result.  `Violation` names the broken
precondition, and `Violation.message` words it.
-/

namespace RagdollDynamics

/-- A precondition that a caller broke. -/
inductive Violation where
  | negativeSphereRadius
  | negativeCapsuleRadius
  | negativeHalfHeight
  | negativeDistance
  /-- A shape belongs to one entity at most. -/
  | shapeTaken (shape : ShapeId) (holder : EntityId)
  /-- What joins a simulation is not already recorded as owned by that simulation. -/
  | staleOwner (k : HandleKind) (member : Handle k)

def Violation.message : Violation → String
  | .negativeSphereRadius => "Sphere radius cannot be negative"
  | .negativeCapsuleRadius => "Capsule radius cannot be negative"
  | .negativeHalfHeight => "Capsule half height cannot be negative"
  | .negativeDistance => "Distance cannot be negative"
  | .shapeTaken shape holder =>
    "shape " ++ shape.text ++ " already belongs to Some(" ++ holder.text ++ ")"
  | .staleOwner k member => k.noun ++ " " ++ member.text ++ " has a stale owner"

end RagdollDynamics
