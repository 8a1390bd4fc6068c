import RagdollDynamics.Contact.Basic

/-!
# Contact tables

A table holds the contacts of a simulation, at most one for each unordered pair of shapes.  Nothing
in the dynamics says in which order contacts are pushed apart or rubbed; kept in a hash map, they
would be visited in an unspecified one.  Here a table lists them in the order in which their pairs
first collided, and every walk follows the list.

So the order is part of the state, and what is proved of a walk holds for every list of entries:
what it looks at and what it may change is read off the entries one by one, in whichever order they
stand (`ContactTable.confined_enforceEntries`, `ContactTable.confined_rubEntries`).  The results
that compare two runs do not depend on the order either.

* Two runs of one simulation (`Simulation.step_comm`) begin with the same entries and note the same
  pairs one after the other, so that both walk the same entries in the same order, whichever it is.
  All that is needed of a table is which shapes its contacts join, and that is left alone when the
  entries are put in another order before any phase of a step (`Simulation.Inside.reorder`,
  `Simulation.Independent.reorder`).
* A run in a moved world (`Simulation.step_equivariant`) notes the same pairs as the run it is
  compared with, and so walks its entries in the same order.
* A simulation at rest (`Simulation.run_of_atRest`) has no contacts to walk.

Two orders of one table are compared by `Simulation.contacts_in_any_order`: they come to the same
unless two contacts share a shape that one of them moves.
-/

namespace RagdollDynamics

/-- The contacts of a simulation, each under the key of its pair. -/
structure ContactTable (K : Type) where
  entries : List (ShapePair × Contact K)

namespace ContactTable

variable {K : Type} [Scalar K]

def empty : ContactTable K := ⟨[]⟩

def size (t : ContactTable K) : Nat := t.entries.length

def toList (t : ContactTable K) : List (Contact K) := t.entries.map Prod.snd

def find? (t : ContactTable K) (key : ShapePair) : Option (Contact K) := t.entries.lookup key

def keep (t : ContactTable K) (p : Contact K → Bool) : ContactTable K :=
  ⟨t.entries.filter fun e => p e.2⟩

/-- Puts `renew` of the contact under `key` in its place, or else appends `fresh`. -/
def upsert (key : ShapePair) (renew : Contact K → Contact K) (fresh : Option (Contact K)) :
    List (ShapePair × Contact K) → List (ShapePair × Contact K)
  | [] => (fresh.map fun c => (key, c)).toList
  | e :: rest =>
    if e.1 = key then (e.1, renew e.2) :: rest else e :: upsert key renew fresh rest

/-- Renews the contact of a collision's pair, or starts one. -/
def note (t : ContactTable K) (frame : UInt32) (allowance : K) (shapes : Shapes K)
    (hit : Collision K) : ContactTable K :=
  match hit.key? with
  | none => t
  | some key =>
    ⟨upsert key (fun c => c.renew hit frame shapes) (Contact.start? hit frame shapes allowance)
      t.entries⟩

def noteAll (t : ContactTable K) (frame : UInt32) (allowance : K) (shapes : Shapes K)
    (hits : List (Collision K)) : ContactTable K :=
  hits.foldl (fun t hit => t.note frame allowance shapes hit) t

def enforceEntries : List (ShapePair × Contact K) → Shapes K →
    List K × List (ShapePair × Contact K) × Shapes K
  | [], shapes => ([], [], shapes)
  | e :: rest, shapes =>
    let one := e.2.enforce shapes
    let others := enforceEntries rest one.2.2
    (one.1 :: others.1, (e.1, one.2.1) :: others.2.1, others.2.2)

/-- Pushes every contact apart: the largest overlap found, the table and the shapes afterwards. -/
def enforce (t : ContactTable K) (shapes : Shapes K) : K × ContactTable K × Shapes K :=
  let all := enforceEntries t.entries shapes
  (Scalar.greatest all.1, ⟨all.2.1⟩, all.2.2)

def rubEntries : List (ShapePair × Contact K) → Shapes K →
    List (ShapePair × Contact K) × Shapes K
  | [], shapes => ([], shapes)
  | e :: rest, shapes =>
    let one := e.2.rub shapes
    let others := rubEntries rest one.2
    ((e.1, one.1) :: others.1, others.2)

def rub (t : ContactTable K) (shapes : Shapes K) : ContactTable K × Shapes K :=
  let all := rubEntries t.entries shapes
  (⟨all.1⟩, all.2)

end ContactTable

end RagdollDynamics
