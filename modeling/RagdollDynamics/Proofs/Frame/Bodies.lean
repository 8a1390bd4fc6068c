import RagdollDynamics.Body.Entity
import RagdollDynamics.Body.Ragdoll
import RagdollDynamics.Proofs.Frame.Region

/-!
# What bodies do to shapes

Entities, ragdolls and their joints move shapes about.  Each of them is confined to the shapes it
names (`Shapes.region`), and keeps of every shape whatever is not its position (`Shape.Kept`).
-/

namespace RagdollDynamics

variable {K : Type} [Scalar K]

/-! ### What is kept of a shape -/

/-- No correction waits to be applied. -/
def Shape.Settled (s : Shape K) : Prop := s.pending = 0 ∧ s.pendingCount = 0

/-- A shape apart from where it is and from the corrections that wait. -/
def Shape.build (s : Shape K) : Shape K := { s with position := 0, pending := 0, pendingCount := 0 }

/-- Only the position may differ, and no correction has come to wait. -/
structure Shape.Kept (s s' : Shape K) : Prop where
  build : s'.build = s.build
  settled : s.Settled → s'.Settled

instance : Std.Refl (Shape.Kept (K := K)) := ⟨fun _ => ⟨rfl, id⟩⟩

instance : IsTrans (Shape K) Shape.Kept where
  trans _ _ _ h₁ h₂ := ⟨h₂.build.trans h₁.build, h₂.settled ∘ h₁.settled⟩

namespace Shapes

/-- The shapes that a list names. -/
def region (F : List ShapeId) : Region (Shapes K) where
  Closed := fun _ => True
  Changed := Arena.ChangedOn Shape.Kept F
  Agree := Arena.AgreeOn F
  changed_refl := .refl F
  changed_trans := .trans
  agree := Arena.equivalence_agreeOn F
  closed_of_changed := fun _ _ => trivial
  closed_of_agree := fun _ _ => trivial

variable {F : List ShapeId} {shapes shapes' : Shapes K} {x : ShapeId}

omit [Scalar K] in
theorem position?_congr (h : shapes.AgreeOn F shapes') (hx : x ∈ F) :
    shapes'.position? x = shapes.position? x := by
  rw [position?, position?, h x hx]

theorem inverseMass_congr (h : shapes.AgreeOn F shapes') (hx : x ∈ F) :
    shapes'.inverseMass x = shapes.inverseMass x := by
  rw [inverseMass, inverseMass, h x hx]

/-- How readily shapes move depends on their build. -/
theorem inverseMass_of_changedOn {T : Shape K → Shape K → Prop}
    (hT : ∀ s s', T s s' → s'.build = s.build) (h : shapes.ChangedOn T F shapes') :
    shapes'.inverseMass = shapes.inverseMass := by
  have hinv : ∀ s s', T s s' → s'.inverseMass = s.inverseMass := by
    intro s s' hs
    show s'.build.inverseMass = s.build.inverseMass
    rw [hT s s' hs]
  funext x
  rw [inverseMass, inverseMass, h.map_find? hinv x]

theorem changed_place (hx : x ∈ F) (p : Shape K → Vec3 K) :
    shapes.ChangedOn Shape.Kept F (shapes.modify x fun s => { s with position := p s }) :=
  Arena.changedOn_modify hx fun _ _ => ⟨rfl, id⟩

theorem confined_moveAll {ids : List ShapeId} (hids : ids ⊆ F) (v : Vec3 K) :
    Confined (region F) fun shapes => ((), shapes.modifyAll ids fun s => s.moveBy v) :=
  ⟨fun _ _ => Arena.changedOn_modifyAll (fun _ => ⟨rfl, id⟩) hids, fun _ _ _ h => ⟨rfl, h.modifyAll _ ids⟩⟩

end Shapes

open Shapes (region)

variable {F : List ShapeId}

/-! ### Joints -/

namespace Joint

def shapes : Joint K → List ShapeId
  | rod a b _ => [a, b]
  | pin shape _ => [shape]

theorem confined_enforceRod {a b : ShapeId} (ha : a ∈ F) (hb : b ∈ F) (length : K) :
    Confined (region F) (enforceRod a b length) := by
  refine .of_cases fun shapes shapes' _ h => ?_
  have hfind : shapes'.find? a = shapes.find? a ∧ shapes'.find? b = shapes.find? b :=
    ⟨(h a ha).symm, (h b hb).symm⟩
  have hsame : shapes.ChangedOn Shape.Kept F shapes := .refl F shapes
  simp only [enforceRod, hfind.1, hfind.2]
  split
  · exact ⟨hsame, rfl, h⟩
  split
  next s t hs ht =>
    split
    · exact ⟨hsame, rfl, h⟩
    split
    · exact ⟨hsame, rfl, h⟩
    · exact ⟨(Shapes.changed_place ha _).trans (Shapes.changed_place hb _), rfl,
        (h.modify a _).modify b _⟩
  next => exact ⟨hsame, rfl, h⟩

theorem confined_enforcePin {shape : ShapeId} (hx : shape ∈ F) (anchor : Vec3 K) :
    Confined (region F) (enforcePin shape anchor) := by
  refine .of_cases fun shapes shapes' _ h => ?_
  simp only [enforcePin, Shapes.position?_congr h hx]
  split
  · exact ⟨.refl F shapes, rfl, h⟩
  · exact ⟨Shapes.changed_place hx _, rfl, h.modify shape _⟩

theorem confined_enforce {j : Joint K} (hj : j.shapes ⊆ F) : Confined (region F) j.enforce := by
  cases j with
  | rod a b length =>
    exact confined_enforceRod (hj List.mem_cons_self) (hj (List.mem_cons_of_mem a
      List.mem_cons_self)) length
  | pin shape anchor => exact confined_enforcePin (hj List.mem_cons_self) anchor

theorem confined_enforceAll : ∀ {joints : List (Joint K)}, joints.flatMap shapes ⊆ F →
    Confined (region F) (enforceAll joints)
  | [], _ => .pure []
  | j :: rest, h => by
    rw [List.flatMap_cons, List.append_subset] at h
    exact (confined_enforce h.1).bind
      (g := fun e shapes => (e :: (enforceAll rest shapes).1, (enforceAll rest shapes).2))
      fun _ _ => (confined_enforceAll h.2).map _

end Joint

/-! ### Ragdolls -/

namespace Particle

theorem confined_step {p : Particle K} (hp : p.shape ∈ F) (gravity : Vec3 K) (damping dt : K) :
    Confined (region F) (p.step gravity damping dt) := by
  refine .of_cases fun shapes shapes' _ h => ?_
  simp only [step, ← h p.shape hp]
  split
  next => exact ⟨.refl F shapes, rfl, h⟩
  next s hs =>
    split
    · exact ⟨.refl F shapes, rfl, h⟩
    · exact ⟨Shapes.changed_place hp _, rfl, h.modify p.shape _⟩

theorem confined_stepAll (gravity : Vec3 K) (damping dt : K) : ∀ {ps : List (Particle K)},
    ps.map Particle.shape ⊆ F → Confined (region F) (stepAll gravity damping dt ps)
  | [], _ => .pure []
  | _ :: rest, h =>
    (confined_step (h List.mem_cons_self) gravity damping dt).bind
      (g := fun one shapes => (one :: (stepAll gravity damping dt rest shapes).1,
        (stepAll gravity damping dt rest shapes).2))
      fun _ _ => (confined_stepAll gravity damping dt (List.subset_of_cons_subset h)).map _

theorem shape_step (p : Particle K) (gravity : Vec3 K) (damping dt : K) (shapes : Shapes K) :
    (p.step gravity damping dt shapes).1.shape = p.shape := by
  unfold step
  split
  · rfl
  · split <;> rfl

theorem map_shape_stepAll (gravity : Vec3 K) (damping dt : K) :
    ∀ (ps : List (Particle K)) (shapes : Shapes K),
      (stepAll gravity damping dt ps shapes).1.map Particle.shape = ps.map Particle.shape
  | [], _ => rfl
  | _ :: rest, shapes => by
    rw [stepAll, List.map_cons, List.map_cons, shape_step, map_shape_stepAll]

end Particle

namespace JointedDoll

variable {d : JointedDoll K}

theorem confined_step (hd : d.shapes ⊆ F) (dt : K) : Confined (region F) (d.step dt) :=
  (Particle.confined_stepAll d.gravity d.damping dt hd).map fun ps => { d with particles := ps }

theorem confined_enforce (hd : d.joints.flatMap Joint.shapes ⊆ F) :
    Confined (region F) d.enforce :=
  (Joint.confined_enforceAll hd).map Scalar.greatest

theorem rootOffset?_congr {shapes shapes' : Shapes K} (hd : d.shapes ⊆ F)
    (h : shapes.AgreeOn F shapes') : d.rootOffset? shapes' = d.rootOffset? shapes := by
  unfold rootOffset? root?
  cases hp : d.particles[d.rootIndex]? with
  | none => rfl
  | some p =>
    have hmem : p.shape ∈ F := hd (List.mem_map_of_mem (List.mem_of_getElem? hp))
    simp only [Option.map_some, Option.bind_some, Shapes.position?_congr h hmem]

theorem confined_recenter (hd : d.shapes ⊆ F) (recording : Bool) :
    Confined (region F) (d.recenter recording) := by
  refine .of_cases fun shapes shapes' _ h => ?_
  simp only [recenter, rootOffset?_congr hd h]
  split
  next => exact ⟨.refl F shapes, rfl, h⟩
  next v hv =>
    split
    · exact ⟨.refl F shapes, rfl, h⟩
    · have hmove := Shapes.confined_moveAll hd v
      exact ⟨hmove.changed shapes trivial, rfl, (hmove.agree shapes shapes' trivial h).2⟩

theorem shapes_recenter (d : JointedDoll K) (recording : Bool) (shapes : Shapes K) :
    (d.recenter recording shapes).1.shapes = d.shapes := by
  have hshift : ∀ v, (d.shift v shapes).1.shapes = d.shapes := fun v => by
    simp [shift, JointedDoll.shapes, Function.comp_def]
  unfold recenter remember
  split
  · rfl
  split
  · rfl
  · split
    · split <;> exact hshift _
    · exact hshift _

theorem build_recenter (d : JointedDoll K) (recording : Bool) (shapes : Shapes K) :
    (d.recenter recording shapes).1.joints = d.joints ∧
      (d.recenter recording shapes).1.massScale = d.massScale := by
  unfold recenter remember
  split
  · exact ⟨rfl, rfl⟩
  split
  · exact ⟨rfl, rfl⟩
  · split
    · split <;> exact ⟨rfl, rfl⟩
    · exact ⟨rfl, rfl⟩

end JointedDoll

namespace Ragdoll

def joints : Ragdoll K → List (Joint K)
  | jointed d => d.joints
  | puppet _ => []

/-- The shapes that a ragdoll lists or that its joints name. -/
def reach (r : Ragdoll K) : List ShapeId := r.shapes ++ r.joints.flatMap Joint.shapes

def isJointed : Ragdoll K → Bool
  | jointed _ => true
  | puppet _ => false

/-- Motion may differ, but not what the ragdoll is made of. -/
structure Kept (r r' : Ragdoll K) : Prop where
  shapes : r'.shapes = r.shapes
  joints : r'.joints = r.joints
  massScale : r'.massScale = r.massScale
  isJointed : r'.isJointed = r.isJointed

omit [Scalar K] in
@[simp] theorem Kept.refl (r : Ragdoll K) : r.Kept r := ⟨rfl, rfl, rfl, rfl⟩

omit [Scalar K] in
theorem Kept.reach {r r' : Ragdoll K} (h : r.Kept r') : r'.reach = r.reach := by
  rw [Ragdoll.reach, Ragdoll.reach, h.shapes, h.joints]

variable {r : Ragdoll K}

theorem kept_step (r : Ragdoll K) (dt : K) (shapes : Shapes K) : r.Kept (r.step dt shapes).1 := by
  cases r with
  | jointed d => exact ⟨Particle.map_shape_stepAll _ _ _ d.particles shapes, rfl, rfl, rfl⟩
  | puppet d => exact .refl _

theorem kept_recenter (r : Ragdoll K) (frame : Vec3 K) (recording : Bool) (shapes : Shapes K) :
    r.Kept ((r.inFrame frame).recenter recording shapes).1 := by
  cases r with
  | jointed d =>
    have hbuild := JointedDoll.build_recenter { d with frame := frame } recording shapes
    exact ⟨JointedDoll.shapes_recenter { d with frame := frame } recording shapes, hbuild.1,
      hbuild.2, rfl⟩
  | puppet d => exact .refl _

theorem confined_step (hr : r.reach ⊆ F) (dt : K) : Confined (region F) (r.step dt) := by
  cases r with
  | jointed d =>
    have hd : d.shapes ⊆ F := (List.append_subset.1 hr).1
    exact (JointedDoll.confined_step hd dt).map jointed
  | puppet d => exact .pure _

theorem confined_enforce (hr : r.reach ⊆ F) : Confined (region F) r.enforce := by
  cases r with
  | jointed d => exact JointedDoll.confined_enforce (List.append_subset.1 hr).2
  | puppet d => exact .pure _

theorem confined_recenter (hr : r.reach ⊆ F) (frame : Vec3 K) (recording : Bool) :
    Confined (region F) ((r.inFrame frame).recenter recording) := by
  cases r with
  | jointed d =>
    have hd : JointedDoll.shapes { d with frame := frame } ⊆ F := (List.append_subset.1 hr).1
    exact (JointedDoll.confined_recenter hd recording).map jointed
  | puppet d => exact .pure _

end Ragdoll

/-! ### Entities -/

theorem RigidBody.confined_step {b : RigidBody K} (hb : b.shapes ⊆ F) (dt : K) :
    Confined (region F) (b.step dt) := by
  have hshapes : (b.accelerate dt).shapes = b.shapes := by
    simp only [RigidBody.accelerate, RigidBody.clearForce]
    split <;> rfl
  refine .of_cases fun shapes shapes' _ h => ?_
  simp only [RigidBody.step, hshapes]
  split
  · exact ⟨.refl F shapes, trivial, h⟩
  · have hmove := Shapes.confined_moveAll hb ((b.accelerate dt).displacement dt)
    exact ⟨hmove.changed shapes trivial, trivial, (hmove.agree shapes shapes' trivial h).2⟩

theorem Entity.confined_step {e : Entity K} (he : e.shapes ⊆ F) (dt : K) :
    Confined (region F) (e.step dt) := by
  cases e with
  | rigid b => exact (RigidBody.confined_step he dt).map Entity.rigid
  | scenery ids => exact .pure _

end RagdollDynamics
