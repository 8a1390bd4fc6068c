/-!
# The numbers of the simulation

Every quantity of the library is generic in its number system.  `Scalar K` lists the operations
that the simulation uses and nothing about their laws: single precision numbers run it, and exact
reals make its geometry provable from the same definitions.
-/

namespace RagdollDynamics

/-- A number system in which a simulation can be carried out. -/
class Scalar (K : Type) extends Add K, Sub K, Mul K, Div K, Neg K, Zero K, One K, NatCast K,
    OfScientific K, LT K, LE K, BEq K where
  /-- The square root, or a value that is not a number below zero. -/
  sqrt : K → K
  isFinite : K → Bool
  /-- The strict order is tested, never assumed total. -/
  decidableLT : DecidableLT K
  decidableLE : DecidableLE K

/-- Single precision, one rounding per operation. -/
instance : Scalar Float32 where
  zero := 0
  one := 1
  natCast := Float32.ofNat
  sqrt := Float32.sqrt
  isFinite := Float32.isFinite
  decidableLT := inferInstance
  decidableLE := inferInstance

namespace Scalar

variable {K : Type} [Scalar K]

instance (priority := low) : DecidableLT K := decidableLT

instance (priority := low) : DecidableLE K := decidableLE

/-- The larger of two values; an undefined operand is passed over for the other one. -/
def max (a b : K) : K := if b ≤ a then a else if b == b then b else a

def abs (x : K) : K := if x < 0 then -x else x

/-- The point of the interval from `lo` to `hi` nearest to `x`; an undefined `x` stays undefined. -/
def clamp (x lo hi : K) : K := if x < lo then lo else if hi < x then hi else x

/-- The largest value of a list, at least zero; undefined values are passed over. -/
def greatest (xs : List K) : K := xs.foldl max 0

/-- The spacing of single precision numbers just above one, `2⁻²³`. -/
def ulp : K := 1.1920928955078125e-7

/-- Lengths up to this one count as zero in geometric tests. -/
def tolerance : K := 1e-6

end Scalar

end RagdollDynamics
