import RagdollDynamics.Collision.Basic

/-!
# Bounded collision buffers

A buffer keeps the collisions of a detection pass up to its capacity.  A full buffer refuses new
collisions, never evicts old ones, and counts what it refused until it is cleared.
-/

namespace RagdollDynamics

/-- A list of collisions with a limit. -/
structure CollisionBuffer (K : Type) where
  items : Array (Collision K)
  capacity : Nat
  /-- How many collisions were refused since the buffer was last cleared. -/
  dropped : Nat

namespace CollisionBuffer

variable {K : Type}

def ofCapacity (capacity : Nat) : CollisionBuffer K := ⟨#[], capacity, 0⟩

def size (b : CollisionBuffer K) : Nat := b.items.size

def isEmpty (b : CollisionBuffer K) : Bool := b.items.isEmpty

def isFull (b : CollisionBuffer K) : Bool := b.capacity ≤ b.size

def toList (b : CollisionBuffer K) : List (Collision K) := b.items.toList

def get? (b : CollisionBuffer K) (n : Nat) : Option (Collision K) := b.items[n]?

/-- Offers a collision: whether it was kept, and the buffer afterwards.  Without room it is counted
as dropped. -/
def offer (b : CollisionBuffer K) (c : Collision K) : Bool × CollisionBuffer K :=
  if b.isFull then (false, { b with dropped := b.dropped + 1 })
  else (true, { b with items := b.items.push c })

/-- Offers collisions one after the other: whether any was kept, and the buffer afterwards. -/
def offerAll (b : CollisionBuffer K) : List (Collision K) → Bool × CollisionBuffer K
  | [] => (false, b)
  | c :: rest =>
    let one := b.offer c
    let last := one.2.offerAll rest
    (one.1 || last.1, last.2)

def clear (b : CollisionBuffer K) : CollisionBuffer K := ofCapacity b.capacity

end CollisionBuffer

end RagdollDynamics
