import RagdollDynamics.Body.Entity
import RagdollDynamics.Body.Ragdoll

/-!
# Worlds

A world owns shapes, entities and ragdolls.  Each entity and each ragdoll sits in a slot that
records which simulation, if any, owns it; simulations themselves hold handles only.
-/

namespace RagdollDynamics

/-- An object of a world, and the simulation that owns it. -/
structure Slot (α : Type) where
  body : α
  owner : Option SimulationId

/-- Ends a simulation's ownership of the object in a slot; another owner stays. -/
def Slot.releasedBy {α : Type} (s : Slot α) (sim : SimulationId) : Slot α :=
  if s.owner = some sim then { s with owner := none } else s

abbrev Slots (k : HandleKind) (α : Type) := Arena k (Slot α)

namespace Slots

variable {k : HandleKind} {α : Type}

/-- What the world records as the owner of an object, if it knows the object at all. -/
def record? (slots : Slots k α) (h : Handle k) : Option (Option SimulationId) :=
  (slots.find? h).map Slot.owner

def owner? (slots : Slots k α) (h : Handle k) : Option SimulationId := (slots.record? h).join

def body? (slots : Slots k α) (h : Handle k) : Option α := (slots.find? h).map Slot.body

def claim (slots : Slots k α) (h : Handle k) (sim : SimulationId) : Slots k α :=
  slots.modify h fun s => { s with owner := some sim }

def release (slots : Slots k α) (sim : SimulationId) (h : Handle k) : Slots k α :=
  slots.modify h fun s => s.releasedBy sim

def releaseAll (slots : Slots k α) (sim : SimulationId) : Slots k α :=
  slots.map fun s => s.releasedBy sim

def replace (slots : Slots k α) (h : Handle k) (body : α) : Slots k α :=
  slots.modify h fun s => { s with body := body }

end Slots

/-- Everything that simulations operate on. -/
structure World (K : Type) where
  shapes : Shapes K
  entities : Slots .entity (Entity K)
  ragdolls : Slots .ragdoll (Ragdoll K)

namespace World

variable {K : Type} [Scalar K]

def empty : World K := ⟨.empty, .empty, .empty⟩

def addShape (w : World K) (s : Shape K) : ShapeId × World K :=
  (w.shapes.nextHandle, { w with shapes := w.shapes.push s })

/-- Marks shapes as part of an entity.  A shape that is part of another entity is a violation, and
a handle that names no shape is passed over. -/
def markHeld (holder : EntityId) : List ShapeId → Shapes K → Except Violation (Shapes K)
  | [], shapes => .ok shapes
  | id :: rest, shapes =>
    match (shapes.find? id).bind Shape.holder with
    | some other =>
      if other = holder then markHeld holder rest shapes else .error (.shapeTaken id other)
    | none => markHeld holder rest (shapes.modify id fun s => { s with holder := some holder })

/-- Adds an entity, owned by no simulation, and marks its shapes as part of it. -/
def addEntity (w : World K) (e : Entity K) : Except Violation (EntityId × World K) :=
  let id := w.entities.nextHandle
  (markHeld id e.shapes w.shapes).map fun shapes =>
    (id, { w with shapes := shapes, entities := w.entities.push ⟨e, none⟩ })

def addRagdoll (w : World K) (r : Ragdoll K) : RagdollId × World K :=
  (w.ragdolls.nextHandle, { w with ragdolls := w.ragdolls.push ⟨r, none⟩ })

def entityShapes (w : World K) (id : EntityId) : List ShapeId :=
  ((w.entities.body? id).map Entity.shapes).getD []

/-- Ends a simulation's ownership of every object of the world.  Mass scales stay as they are. -/
def release (w : World K) (sim : SimulationId) : World K :=
  { w with entities := w.entities.releaseAll sim, ragdolls := w.ragdolls.releaseAll sim }

def actEntity (w : World K) (id : EntityId) (f : Entity K → Shapes K → Entity K × Shapes K) :
    World K :=
  match w.entities.body? id with
  | none => w
  | some e =>
    let acted := f e w.shapes
    { w with entities := w.entities.replace id acted.1, shapes := acted.2 }

def actRagdoll (w : World K) (id : RagdollId)
    (f : Ragdoll K → Shapes K → Ragdoll K × Shapes K) : World K :=
  match w.ragdolls.body? id with
  | none => w
  | some r =>
    let acted := f r w.shapes
    { w with ragdolls := w.ragdolls.replace id acted.1, shapes := acted.2 }

def rescaleRagdoll (w : World K) (scale : K) (id : RagdollId) : World K :=
  w.actRagdoll id fun r shapes => r.rescale scale shapes

end World

end RagdollDynamics
