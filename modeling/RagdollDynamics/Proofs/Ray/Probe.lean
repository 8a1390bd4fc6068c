import Mathlib.Data.List.Perm.Basic
import RagdollDynamics.Proofs.Ray.Comparison
import RagdollDynamics.Simulation.Basic

/-!
# What a probe brings back

A probe carried through a list of shapes brings back the first of the nearest hits that beat what it
had (`Probe.cast_cases`).  So it does not matter how the list is cut into parts
(`Probe.castEach_eq_cast`), and the distance of the hit does not depend on the order of the list
(`Probe.sameAnswer_of_mem_iff`).
-/

namespace RagdollDynamics

/-- The same value, where the two zeros count as one. -/
def Scalar.SameValue {K : Type} [Scalar K] (a b : K) : Prop := a = b ∨ a == 0 ∧ b == 0

namespace Probe

variable {K : Type} [Scalar K] (p : Probe K) (shapes : Shapes K)

/-- The probe sees a shape: its ray meets the shape, and not behind its origin. -/
def Sees (id : ShapeId) (h : RayHit K) : Prop := p.hit? shapes id = some h ∧ 0 ≤ h.distance

/-- What the probe sees of `id` is nearer than all it sees of the shapes that `ids` lists before,
and nothing it sees of those listed after is nearer. -/
def FirstNearest (ids : List ShapeId) (id : ShapeId) (h : RayHit K) : Prop :=
  p.Sees shapes id h ∧ ∃ before after, ids = before ++ id :: after ∧
    (∀ j ∈ before, ∀ g, p.Sees shapes j g → h.distance < g.distance) ∧
    ∀ j ∈ after, ∀ g, p.Sees shapes j g → h.distance ≤ g.distance

def take (id : ShapeId) (h : RayHit K) : Probe K :=
  { p with distance := h.distance, normal := h.normal, shape := some id }

/-- Carries the probe through one list after the other: whether anything was hit nearer than before
in any of them, and the probe afterwards. -/
def castEach (lists : List (List ShapeId)) : Bool × Probe K :=
  lists.foldl (fun soFar ids =>
    let next := soFar.2.cast shapes ids
    (soFar.1 || next.1, next.2)) (false, p)

/-- Two probes report alike: both found something or neither did, and they are as far. -/
def SameAnswer (a b : Bool × Probe K) : Prop :=
  a.1 = b.1 ∧ a.2.hasHit = b.2.hasHit ∧ Scalar.SameValue a.2.distance b.2.distance

variable {p shapes} {id : ShapeId} {ids : List ShapeId} {g h : RayHit K}

theorem Sees.eq (hg : p.Sees shapes id g) (hh : p.Sees shapes id h) : g = h :=
  Option.some.inj (hg.1.symm.trans hh.1)

theorem FirstNearest.mem (hh : p.FirstNearest shapes ids id h) : id ∈ ids := by
  obtain ⟨-, before, after, rfl, -⟩ := hh
  simp

/-! ### One shape -/

theorem meet_cases (p : Probe K) (shapes : Shapes K) (id : ShapeId) :
    (p.meet shapes id = (false, p) ∧ ∀ g, p.Sees shapes id g → ¬g.distance < p.distance) ∨
      ∃ h, p.Sees shapes id h ∧ h.distance < p.distance ∧
        p.meet shapes id = (true, p.take id h) := by
  unfold meet
  split
  next none => exact .inl ⟨rfl, fun g hg => nomatch none.symm.trans hg.1⟩
  next h some =>
    split
    next beats =>
      obtain ⟨hzero, hlt⟩ := of_decide_eq_true beats
      exact .inr ⟨h, ⟨some, hzero⟩, hlt, rfl⟩
    next short =>
      refine .inl ⟨rfl, fun g hg hlt => short (decide_eq_true ?_)⟩
      obtain rfl := Option.some.inj (hg.1.symm.trans some)
      exact ⟨hg.2, hlt⟩

/-! ### A list of shapes -/

section Ordered

variable [Scalar.Ordered K]

/-- **What a probe brings back from a list of shapes.**  By induction on the list: a hit of the
first shape lowers the bar for the rest, and what beats the lower bar beats that hit. -/
theorem cast_cases (p : Probe K) (shapes : Shapes K) (ids : List ShapeId) :
    (p.cast shapes ids = (false, p) ∧
      ∀ id ∈ ids, ∀ g, p.Sees shapes id g → ¬g.distance < p.distance) ∨
    ∃ id h, p.FirstNearest shapes ids id h ∧ h.distance < p.distance ∧
      p.cast shapes ids = (true, p.take id h) := by
  induction ids generalizing p with
  | nil => exact .inl ⟨rfl, fun _ hid => nomatch hid⟩
  | cons i rest ih =>
    rw [cast]
    rcases meet_cases p shapes i with ⟨hmeet, hshort⟩ | ⟨h, hsees, hlt, hmeet⟩
    · rw [hmeet]
      rcases ih p with ⟨hcast, hnone⟩ | ⟨id, h, ⟨hsees, before, after, hsplit, hbefore, hafter⟩,
        hlt, hcast⟩
      · refine .inl ⟨by rw [hcast]; rfl, ?_⟩
        simpa only [List.forall_mem_cons] using ⟨hshort, hnone⟩
      · refine .inr ⟨id, h, ⟨hsees, i :: before, after, by rw [hsplit]; rfl, ?_, hafter⟩, hlt,
          by rw [hcast]; rfl⟩
        simp only [List.forall_mem_cons]
        refine ⟨fun g hg => ?_, hbefore⟩
        exact (Scalar.Ordered.lt_or_lt hg.2 hlt).resolve_right (hshort g hg)
    · rw [hmeet]
      rcases ih (p.take i h) with ⟨hcast, hnone⟩ | ⟨id, h', ⟨hsees', before, after, hsplit,
        hbefore, hafter⟩, hlt', hcast⟩
      · refine .inr ⟨i, h, ⟨hsees, [], rest, rfl, nofun, fun j hj g hg => ?_⟩, hlt,
          by rw [hcast]; rfl⟩
        exact (Scalar.Ordered.le_iff_not_lt hsees.2 hg.2).2 (hnone j hj g hg)
      · refine .inr ⟨id, h', ⟨hsees', i :: before, after, by rw [hsplit]; rfl, ?_, hafter⟩,
          Scalar.Ordered.lt_trans hlt' hlt, by rw [hcast]; rfl⟩
        simp only [List.forall_mem_cons]
        refine ⟨fun g hg => ?_, hbefore⟩
        rwa [hg.eq hsees]

/-- Nothing listed is seen nearer than the first of the nearest. -/
theorem FirstNearest.not_lt (hh : p.FirstNearest shapes ids id h) {j : ShapeId} (hj : j ∈ ids)
    (hg : p.Sees shapes j g) : ¬g.distance < h.distance := by
  obtain ⟨hsees, before, after, rfl, hbefore, hafter⟩ := hh
  rcases List.mem_append.1 hj with hj | hj
  · exact fun hlt =>
      Scalar.Ordered.lt_irrefl _ (Scalar.Ordered.lt_trans hlt (hbefore j hj g hg))
  · rcases List.mem_cons.1 hj with rfl | hj
    · rw [hg.eq hsees]
      exact Scalar.Ordered.lt_irrefl _
    · exact (Scalar.Ordered.le_iff_not_lt hsees.2 hg.2).1 (hafter j hj g hg)

/-- **How far the hit is depends on which shapes are listed only.** -/
theorem sameAnswer_of_mem_iff (p : Probe K) (shapes : Shapes K) {ids ids' : List ShapeId}
    (hmem : ∀ id, id ∈ ids ↔ id ∈ ids') :
    SameAnswer (p.cast shapes ids) (p.cast shapes ids') := by
  rcases cast_cases p shapes ids with ⟨hcast, hnone⟩ | ⟨id, h, hfirst, hlt, hcast⟩ <;>
    rcases cast_cases p shapes ids' with ⟨hcast', hnone'⟩ | ⟨id', h', hfirst', hlt', hcast'⟩ <;>
      rw [hcast, hcast']
  · exact ⟨rfl, rfl, .inl rfl⟩
  · exact absurd hlt' (hnone id' ((hmem id').2 hfirst'.mem) h' hfirst'.1)
  · exact absurd hlt (hnone' id ((hmem id).1 hfirst.mem) h hfirst.1)
  · refine ⟨rfl, rfl, Scalar.Ordered.eq_or_zero hfirst.1.2 hfirst'.1.2 ?_ ?_⟩
    · exact hfirst'.not_lt ((hmem id).1 hfirst.mem) hfirst.1
    · exact hfirst.not_lt ((hmem id').2 hfirst'.mem) hfirst'.1

/-- A probe never looks beyond its reach. -/
theorem not_reach_lt_cast (hreach : ¬p.reach < p.distance) (ids : List ShapeId) :
    ¬p.reach < (p.cast shapes ids).2.distance := by
  rcases cast_cases p shapes ids with ⟨hcast, -⟩ | ⟨id, h, -, hlt, hcast⟩ <;> rw [hcast]
  · exact hreach
  · exact fun hbeyond => hreach (Scalar.Ordered.lt_trans hbeyond hlt)

end Ordered

/-! ### Lists in parts -/

theorem cast_append (p : Probe K) (shapes : Shapes K) (xs ys : List ShapeId) :
    p.cast shapes (xs ++ ys) =
      ((p.cast shapes xs).1 || ((p.cast shapes xs).2.cast shapes ys).1,
        ((p.cast shapes xs).2.cast shapes ys).2) := by
  induction xs generalizing p with
  | nil => rfl
  | cons x xs ih => simp only [List.cons_append, cast, ih, Bool.or_assoc]

/-- **It does not matter how a list is cut into parts.**  The fold carries what was found so far,
so the induction is on the lists for every such start. -/
theorem castEach_eq_cast (p : Probe K) (shapes : Shapes K) (lists : List (List ShapeId)) :
    p.castEach shapes lists = p.cast shapes lists.flatten := by
  have hfold : ∀ (found : Bool) (q : Probe K),
      lists.foldl (fun soFar ids =>
        let next := soFar.2.cast shapes ids
        (soFar.1 || next.1, next.2)) (found, q) =
      (found || (q.cast shapes lists.flatten).1, (q.cast shapes lists.flatten).2) := by
    induction lists with
    | nil => simp [cast]
    | cons ids lists ih =>
      intro found q
      simp only [List.foldl_cons, List.flatten_cons, ih, cast_append, Bool.or_assoc]
  simp [castEach, hfold]

end Probe

namespace Simulation

theorem probeOthers_eq_castEach {K : Type} [Scalar K] (s : Simulation K) (w : World K)
    (p : Probe K) :
    s.probeOthers w p = p.castEach w.shapes (s.entities.others.map w.entityShapes) := by
  rw [Probe.castEach_eq_cast, probeOthers, List.flatMap_def]

/-- **A probe in single precision brings back the nearest hit.**  The distances of hits, and the one
the probe starts with, may be infinite or no numbers. -/
theorem probe_finds_nearest (p : Probe Float32) :
    (∀ shapes ids,
      ((∀ id ∈ ids, ∀ g, p.Sees shapes id g → ¬g.distance < p.distance) →
        p.cast shapes ids = (false, p)) ∧
      ((∃ id ∈ ids, ∃ g, p.Sees shapes id g ∧ g.distance < p.distance) →
        ∃ id h, p.FirstNearest shapes ids id h ∧ h.distance < p.distance ∧
          p.cast shapes ids = (true, p.take id h))) ∧
    (∀ shapes lists, p.castEach shapes lists = p.cast shapes lists.flatten) ∧
    (∀ shapes ids ids', ids.Perm ids' →
      Probe.SameAnswer (p.cast shapes ids) (p.cast shapes ids')) ∧
    ∀ (s : Simulation Float32) (w : World Float32),
      s.probeOthers w p = p.castEach w.shapes (s.entities.others.map w.entityShapes) ∧
      (∀ (s' : Simulation Float32) (w' : World Float32), w'.shapes = w.shapes →
        s.entities.others.Perm s'.entities.others →
        (∀ o ∈ s.entities.others, (w.entityShapes o).Perm (w'.entityShapes o)) →
        Probe.SameAnswer (s.probeOthers w p) (s'.probeOthers w' p)) ∧
      (¬p.reach < p.distance → ¬p.reach < (s.probeOthers w p).2.distance) ∧
      ∀ origin v reach, ¬reach < (s.probeOthers w (.along origin v reach)).2.distance := by
  have hperm : ∀ shapes ids ids', ids.Perm ids' →
      Probe.SameAnswer (p.cast shapes ids) (p.cast shapes ids') :=
    fun shapes ids ids' h => Probe.sameAnswer_of_mem_iff p shapes fun _ => h.mem_iff
  refine ⟨fun shapes ids => ⟨fun hnone => ?_, fun ⟨id, hid, g, hg, hlt⟩ => ?_⟩,
    Probe.castEach_eq_cast p, hperm, fun s w => ⟨probeOthers_eq_castEach s w p, ?_, ?_, ?_⟩⟩
  · rcases Probe.cast_cases p shapes ids with ⟨hcast, -⟩ | ⟨id, h, hfirst, hlt, -⟩
    · exact hcast
    · exact absurd hlt (hnone id hfirst.mem h hfirst.1)
  · rcases Probe.cast_cases p shapes ids with ⟨-, hnone⟩ | hfound
    · exact absurd hlt (hnone id hid g hg)
    · exact hfound
  · intro s' w' hshapes hothers htargets
    rw [probeOthers, probeOthers, hshapes]
    exact hperm _ _ _ (hothers.flatMap htargets)
  · exact fun hreach => Probe.not_reach_lt_cast hreach _
  · exact fun origin v reach =>
      Probe.not_reach_lt_cast (p := .along origin v reach) (Scalar.Ordered.lt_irrefl reach) _

/-- A smaller ball inside a larger one, each an entity of its own. -/
def nest : World Float32 where
  shapes := (Arena.empty.push (.ofForm (.sphere 1) 1)).push (.ofForm (.sphere 2) 1)
  entities := (Arena.empty.push ⟨.scenery [⟨0⟩], none⟩).push ⟨.scenery [⟨1⟩], none⟩
  ragdolls := .empty

def among (others : List EntityId) : Simulation Float32 :=
  { fresh ⟨1⟩ .standard (.still 0) with entities := ⟨none, others⟩ }

theorem probe_finds_nearest_of_nest : ∃ p : Probe Float32,
    ((among [⟨0⟩, ⟨1⟩]).probeOthers nest p).1 = true ∧
    Probe.SameAnswer ((among [⟨0⟩, ⟨1⟩]).probeOthers nest p)
      ((among [⟨1⟩, ⟨0⟩]).probeOthers nest p) ∧
    (∃ id h, p.FirstNearest nest.shapes [⟨0⟩, ⟨1⟩] id h) ∧
    ¬p.reach < ((among [⟨0⟩, ⟨1⟩]).probeOthers nest p).2.distance := by
  let p : Probe Float32 := .downward ⟨0, 10, 0⟩ 100
  obtain ⟨hcast, -, -, hothers⟩ := probe_finds_nearest p
  obtain ⟨-, horder, hreach, -⟩ := hothers (among [⟨0⟩, ⟨1⟩]) nest
  have hhit : (p.hit? nest.shapes ⟨0⟩).any fun g => 0 ≤ g.distance ∧ g.distance < p.distance := by
    decide +kernel
  obtain ⟨g, hg, hnear⟩ := (Option.any_eq_true _ _).1 hhit
  obtain ⟨hzero, hlt⟩ := of_decide_eq_true hnear
  obtain ⟨id, h, hfirst, -, hfound⟩ :=
    (hcast nest.shapes [⟨0⟩, ⟨1⟩]).2 ⟨⟨0⟩, by simp, g, ⟨hg, hzero⟩, hlt⟩
  refine ⟨p, ?_, horder (among [⟨1⟩, ⟨0⟩]) nest rfl (List.Perm.swap _ _ _) fun _ _ => .refl _,
    ⟨id, h, hfirst⟩, hreach (by decide +kernel)⟩
  exact congrArg Prod.fst hfound

end Simulation

end RagdollDynamics
