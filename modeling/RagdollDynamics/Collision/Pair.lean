import RagdollDynamics.Handle

/-!
# Pairs of shapes

An unordered pair of shapes is packed into one 64-bit number: the lower handle in the upper half,
the higher handle in the lower half.
-/

namespace RagdollDynamics

/-- An unordered pair of shapes. -/
structure ShapePair where
  raw : UInt64
  deriving DecidableEq

namespace ShapePair

/-- The pair with the first handle in the upper half and the second in the lower half. -/
def ofOrdered (lower higher : ShapeId) : ShapePair :=
  ⟨(lower.raw.toUInt64 <<< 32) ||| higher.raw.toUInt64⟩

def of (a b : ShapeId) : ShapePair := if a.raw < b.raw then ofOrdered a b else ofOrdered b a

end ShapePair

end RagdollDynamics
