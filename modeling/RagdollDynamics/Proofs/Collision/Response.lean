import Mathlib.Tactic.LinearCombination
import RagdollDynamics.Proofs.Exact.Movers

/-!
# What answering collisions comes to

Answering a list of collisions goes through the shapes twice: first every collision leaves its
corrections, then every shape that took part settles.  What comes of it is said for each shape by
itself: it moves once, by the mean of the corrections that the collisions have for it
(`Collision.find?_resolveAll_eq`).
-/

namespace RagdollDynamics

variable {K : Type} [Scalar K]

theorem Arena.mem_toList_of_find? {k : HandleKind} {α : Type} {a : Arena k α} {x : Handle k} {v : α}
    (h : a.find? x = some v) : v ∈ a.toList :=
  Array.mem_toList_iff.2 (Array.mem_of_getElem? h)

/-! ### Corrections of one shape -/

namespace Shape

/-- Moves a shape by the mean of a list of corrections; without any it stays where it is. -/
def moveByMean (s : Shape K) (l : List (Vec3 K)) : Shape K :=
  if l.length = 0 then s else s.moveBy (l.foldl (· + ·) 0 / (l.length : K))

theorem foldl_leave (l : List (Vec3 K)) (s : Shape K) : l.foldl leave s =
    { s with
      pending := l.foldl (· + ·) s.pending
      pendingCount := s.pendingCount + l.length } := by
  induction l generalizing s with
  | nil => rfl
  | cons v l ih =>
    rw [List.foldl_cons, ih, List.foldl_cons, List.length_cons, leave]
    simp only [Nat.add_assoc, Nat.add_comm 1]

/-- A shape settles by the mean of what it was left, if nothing had waited before. -/
theorem Settled.settle_foldl_leave {s : Shape K} (h : s.Settled) (l : List (Vec3 K)) :
    (l.foldl leave s).settle = s.moveByMean l := by
  obtain ⟨hpending, hcount⟩ := h
  rw [foldl_leave, hpending, hcount, Nat.zero_add, settle, moveByMean]
  by_cases hl : l.length = 0
  · obtain rfl := List.length_eq_zero_iff.1 hl
    simp [← hpending, ← hcount]
  · simp only [hl, if_false, moveBy, hpending, hcount]

end Shape

/-! ### Corrections of one collision -/

namespace Collision

/-- How readily the two shapes of a collision move together. -/
def mobility (c : Collision K) (shapes : Shapes K) : K :=
  shapes.inverseMass c.first + c.secondInverseMass shapes

/-- The corrections that a collision has for a shape: along the penetration if it is the second one,
against it if it is the first one, each time by the part that the shape has in how readily the two
move.  There are none if the first shape is missing or the two do not move. -/
def corrections (c : Collision K) (shapes : Shapes K) (x : ShapeId) : List (Vec3 K) :=
  let share := shapes.inverseMass x / c.mobility shapes
  if (shapes.find? c.first).isNone ∨ c.mobility shapes ≤ 0 then []
  else
    (if c.second = some x ∧ 0 < shapes.inverseMass x then [c.penetration * share] else []) ++
      if c.first = x ∧ 0 < shapes.inverseMass x then [-c.penetration * share] else []

variable {c : Collision K} {cs : List (Collision K)} {shapes shapes' : Shapes K} {x : ShapeId}

theorem find?_leaveSecond (c : Collision K) (shapes : Shapes K) (x : ShapeId) (total : K) :
    (if 0 < c.secondInverseMass shapes then
        c.pushSecond (c.secondInverseMass shapes / total) shapes else shapes).find? x =
      (shapes.find? x).map fun s =>
        (if c.second = some x ∧ 0 < shapes.inverseMass x then
          [c.penetration * (shapes.inverseMass x / total)] else []).foldl Shape.leave s := by
  cases hsecond : c.second with
  | none => simp [pushSecond, secondInverseMass, hsecond, Arena.modifyAll]
  | some b =>
    have hmass : c.secondInverseMass shapes = shapes.inverseMass b := by
      rw [secondInverseMass, hsecond]
      rfl
    have hpush : ∀ share, c.pushSecond share shapes =
        shapes.modify b fun s => s.leave (c.penetration * share) := by
      intro share
      rw [pushSecond, hsecond]
      rfl
    rw [hmass, hpush]
    by_cases hb : b = x
    · subst hb
      by_cases hmoves : 0 < shapes.inverseMass b
      · simp [hmoves]
      · simp [hmoves]
    · by_cases hmoves : 0 < shapes.inverseMass b
      · simp [hmoves, hb, Arena.find?_modify_of_ne]
      · simp [hmoves, hb]

theorem find?_leaveFirst (c : Collision K) (shapes : Shapes K) (x : ShapeId) (mass share : K) :
    (if 0 < mass then c.pushFirst share shapes else shapes).find? x =
      (shapes.find? x).map fun s =>
        (if c.first = x ∧ 0 < mass then [-c.penetration * share] else []).foldl Shape.leave s := by
  by_cases hmoves : 0 < mass
  · by_cases hx : c.first = x
    · simp [hmoves, hx, pushFirst]
    · simp [hmoves, hx, pushFirst, Arena.find?_modify_of_ne]
  · simp [hmoves]

/-- A collision leaves every shape the corrections that it has for it. -/
theorem find?_correct (c : Collision K) (shapes : Shapes K) (x : ShapeId) :
    (c.correct shapes).find? x =
      (shapes.find? x).map fun s => (c.corrections shapes x).foldl Shape.leave s := by
  unfold correct
  split
  next hfirst => simp [corrections, hfirst]
  next a hfirst =>
    have hmass : a.inverseMass = shapes.inverseMass c.first := by
      rw [Shapes.inverseMass, hfirst]
      rfl
    have hmobility : a.inverseMass + c.secondInverseMass shapes = c.mobility shapes := by
      rw [mobility, hmass]
    dsimp only
    rw [hmobility]
    by_cases htotal : c.mobility shapes ≤ 0
    · simp [corrections, htotal]
    · have hlist : c.corrections shapes x =
          (if c.second = some x ∧ 0 < shapes.inverseMass x then
            [c.penetration * (shapes.inverseMass x / c.mobility shapes)] else []) ++
          if c.first = x ∧ 0 < a.inverseMass then
            [-c.penetration * (a.inverseMass / c.mobility shapes)] else [] := by
        by_cases hx : c.first = x
        · subst hx
          simp [corrections, hfirst, htotal, hmass]
        · simp [corrections, hfirst, htotal, hx]
      rw [if_neg htotal, find?_leaveFirst, find?_leaveSecond, Option.map_map, hlist]
      simp only [List.foldl_append, Function.comp_def]

/-! ### Corrections of a list of collisions -/

/-- Corrections that wait change nothing in what a collision has for a shape. -/
theorem corrections_of_changedOn {F : List ShapeId}
    (h : shapes.ChangedOn Shape.Corrected F shapes') (c : Collision K) (x : ShapeId) :
    c.corrections shapes' x = c.corrections shapes x := by
  have hmass : shapes'.inverseMass = shapes.inverseMass :=
    Shapes.inverseMass_of_changedOn (fun _ _ hst => hst.build) h
  have hmobility : c.mobility shapes' = c.mobility shapes := by
    rw [mobility, mobility, secondInverseMass, secondInverseMass, hmass]
  have hfirst : (shapes'.find? c.first).isNone = (shapes.find? c.first).isNone := by
    cases hfind : shapes.find? c.first with
    | none => rw [h.find?_eq_none hfind]
    | some s =>
      obtain ⟨t, ht, -⟩ := h.find?_rel hfind
      rw [ht]
      rfl
  simp only [corrections, hmass, hmobility, hfirst]

/-- After the first pass every shape was left the corrections of all collisions, in order. -/
theorem find?_foldl_correct_eq (cs : List (Collision K)) (shapes : Shapes K) (x : ShapeId) :
    (cs.foldl (fun s c => c.correct s) shapes).find? x = (shapes.find? x).map fun s =>
      (cs.flatMap fun c => c.corrections shapes x).foldl Shape.leave s := by
  induction cs generalizing shapes with
  | nil => simp
  | cons c cs ih =>
    have hone : shapes.ChangedOn Shape.Corrected c.parties (c.correct shapes) :=
      changedOn_correct (fun _ hx => hx) shapes
    rw [List.foldl_cons, ih, find?_correct, Option.map_map, List.flatMap_cons]
    simp only [corrections_of_changedOn hone, List.foldl_append, Function.comp_def]

/-- A collision has corrections for its own shapes only. -/
theorem mem_parties_of_corrections (h : c.corrections shapes x ≠ []) : x ∈ c.parties := by
  by_contra hout
  have hfirst : c.first ≠ x := fun he => hout (he ▸ List.mem_cons_self)
  have hsecond : c.second ≠ some x := fun he => hout (by simp [parties, he])
  exact h (by simp [corrections, hfirst, hsecond])

/-- **Answering collisions moves each shape by the mean of its corrections**, if nothing had waited
before. -/
theorem find?_resolveAll_eq {t : Shape K} (hfind : shapes.find? x = some t) (ht : t.Settled) :
    (resolveAll cs shapes).find? x =
      some (t.moveByMean (cs.flatMap fun c => c.corrections shapes x)) := by
  have hleft := find?_foldl_correct_eq cs shapes x
  rw [hfind, Option.map_some] at hleft
  rw [resolveAll, Arena.find?_modifyAll Shape.settle_settle, hleft, Option.map_some,
    ht.settle_foldl_leave]
  split
  next => rfl
  next hout =>
    -- a shape that takes no part has no corrections
    have hnone : (cs.flatMap fun c => c.corrections shapes x) = [] := by
      refine List.flatMap_eq_nil_iff.2 fun c hc => ?_
      by_contra hsome
      exact hout (List.mem_flatMap.2 ⟨c, hc, mem_parties_of_corrections hsome⟩)
    rw [hnone]
    rfl

/-- It makes no difference in which order the shapes that took part settle, nor how often. -/
theorem modifyAll_settle_eq {order : List ShapeId}
    (h : ∀ x, x ∈ order ↔ x ∈ cs.flatMap parties) :
    (cs.foldl (fun s c => c.correct s) shapes).modifyAll order Shape.settle =
      resolveAll cs shapes := by
  have hitems : ∀ i : Nat, ((cs.foldl (fun s c => c.correct s) shapes).modifyAll order
      Shape.settle).items[i]? = (resolveAll cs shapes).items[i]? := by
    intro i
    rw [resolveAll, Arena.getElem?_modifyAll Shape.settle_settle,
      Arena.getElem?_modifyAll Shape.settle_settle]
    simp only [h]
  exact congrArg Arena.mk (Array.ext_getElem? hitems)

end Collision

/-! ### Exact arithmetic -/

theorem Shape.inverseMass_nonneg (s : Shape ℝ) : 0 ≤ s.inverseMass := by
  unfold Shape.inverseMass
  split
  next h => exact (one_div_pos.2 h.1).le
  next => exact le_refl 0

theorem Shape.inverseMass_mul_effectiveMass {s : Shape ℝ} (h : 0 < s.inverseMass) :
    s.inverseMass * s.effectiveMass = 1 := by
  unfold Shape.inverseMass at h ⊢
  split at h
  next hmass => rw [if_pos hmass, one_div_mul_cancel hmass.1.ne']
  next => exact absurd h (lt_irrefl 0)

theorem Shapes.inverseMass_nonneg (shapes : Shapes ℝ) (x : ShapeId) : 0 ≤ shapes.inverseMass x := by
  unfold Shapes.inverseMass
  cases shapes.find? x with
  | none => exact le_refl 0
  | some s => exact s.inverseMass_nonneg

/-- What is left with a shape counts alike in whichever order it is left. -/
theorem Shape.foldl_leave_perm {l l' : List (Vec3 ℝ)} (h : l.Perm l') (s : Shape ℝ) :
    l.foldl leave s = l'.foldl leave s := by
  have hcomm : RightCommutative ((· + ·) : Vec3 ℝ → Vec3 ℝ → Vec3 ℝ) :=
    ⟨fun u v w => add_right_comm u v w⟩
  rw [foldl_leave, foldl_leave, h.foldl_eq s.pending, h.length_eq]

namespace Collision

variable {c : Collision ℝ} {cs ds : List (Collision ℝ)} {shapes : Shapes ℝ} {x : ShapeId}

/-- Two shapes move together if one of them does. -/
theorem mobility_pos (hx : x ∈ c.parties) (hmoves : 0 < shapes.inverseMass x) :
    0 < c.mobility shapes := by
  have hsecond : 0 ≤ c.secondInverseMass shapes := by
    unfold secondInverseMass
    cases c.second with
    | none => exact le_refl 0
    | some b => exact shapes.inverseMass_nonneg b
  rcases List.mem_cons.1 hx with rfl | hx
  · exact add_pos_of_pos_of_nonneg hmoves hsecond
  · have hmass : c.secondInverseMass shapes = shapes.inverseMass x := by
      rw [secondInverseMass, Option.mem_toList.1 hx]
      rfl
    exact add_pos_of_nonneg_of_pos (shapes.inverseMass_nonneg c.first) (hmass ▸ hmoves)

/-- **Which shapes a collision has corrections for**: those of the two that can move, if the first
one exists. -/
theorem corrections_ne_nil_iff : c.corrections shapes x ≠ [] ↔
    (shapes.find? c.first).isSome ∧ x ∈ c.parties ∧ 0 < shapes.inverseMass x := by
  constructor
  · intro h
    have hx := mem_parties_of_corrections h
    unfold corrections at h
    split at h
    next => exact absurd rfl h
    next hnone =>
      have hfirst : (shapes.find? c.first).isSome := by
        rw [Option.isSome_iff_ne_none]
        intro hmissing
        exact hnone (.inl (by rw [hmissing]; rfl))
      refine ⟨hfirst, hx, ?_⟩
      by_contra hmoves
      simp [hmoves] at h
  · rintro ⟨hfirst, hx, hmoves⟩
    have htotal := mobility_pos hx hmoves
    obtain ⟨a, ha⟩ := Option.isSome_iff_exists.1 hfirst
    rcases List.mem_cons.1 hx with rfl | hx
    · simp [corrections, ha, htotal.not_ge, hmoves]
    · simp [corrections, ha, htotal.not_ge, hmoves, Option.mem_toList.1 hx]

/-- **Collisions may be answered in any order.** -/
theorem resolveAll_perm (h : cs.Perm ds) : resolveAll ds shapes = resolveAll cs shapes := by
  have hparties : ∀ x, x ∈ ds.flatMap parties ↔ x ∈ cs.flatMap parties :=
    fun x => (h.flatMap_right parties).symm.mem_iff
  have hagree : Arena.AgreeOn (cs.flatMap parties) (resolveAll ds shapes)
      (resolveAll cs shapes) := by
    intro x _
    have hcorrected : (ds.foldl (fun s c => c.correct s) shapes).find? x =
        (cs.foldl (fun s c => c.correct s) shapes).find? x := by
      rw [find?_foldl_correct_eq, find?_foldl_correct_eq]
      congr 1
      funext s
      exact Shape.foldl_leave_perm (h.symm.flatMap_right _) s
    simp only [resolveAll, Arena.find?_modifyAll Shape.settle_settle, hparties, hcorrected]
  have hchanged : shapes.ChangedOn Shape.Kept (cs.flatMap parties) (resolveAll ds shapes) :=
    (changedOn_resolveAll ds shapes).mono fun x hx => (hparties x).1 hx
  exact Arena.ext_of_changedOn hchanged (.refl [] _) (.refl (T := Shape.Kept) [] shapes)
    (changedOn_resolveAll cs shapes) hagree fun x hx => absurd hx List.not_mem_nil

/-- Two shares of a displacement, taken in opposite directions, make up the whole. -/
theorem shares_apart {k l : ℝ} (h : 0 < k + l) (p : Vec3 ℝ) :
    p * (l / (k + l)) - -p * (k / (k + l)) = p := by
  have hshares : k / (k + l) + l / (k + l) = 1 := by
    rw [← add_div, div_self h.ne']
  have hapart : ∀ x : ℝ, x * (l / (k + l)) - -x * (k / (k + l)) = x := by
    intro x
    linear_combination x * hshares
  exact Vec3.ext (hapart _) (hapart _) (hapart _)

/-- **Two shapes that can move share a correction** so that their common centre of mass stays where
it is, and come apart by the penetration. -/
theorem corrections_balance {b : ShapeId} {s t : Shape ℝ} (hsecond : c.second = some b)
    (hne : c.first ≠ b) (hs : shapes.find? c.first = some s) (ht : shapes.find? b = some t)
    (hmovesA : 0 < s.inverseMass) (hmovesB : 0 < t.inverseMass) :
    ∃ u v, c.corrections shapes c.first = [u] ∧ c.corrections shapes b = [v] ∧
      u * s.effectiveMass + v * t.effectiveMass = 0 ∧ v - u = c.penetration := by
  have hmassA := Shapes.inverseMass_of_find? hs
  have hmassB := Shapes.inverseMass_of_find? ht
  have htotal : c.mobility shapes = s.inverseMass + t.inverseMass := by
    rw [mobility, secondInverseMass, hsecond, hmassA]
    exact congrArg _ hmassB
  have hpos : 0 < s.inverseMass + t.inverseMass := add_pos hmovesA hmovesB
  have hone := Shape.inverseMass_mul_effectiveMass hmovesA
  have hone' := Shape.inverseMass_mul_effectiveMass hmovesB
  refine ⟨-c.penetration * (s.inverseMass / (s.inverseMass + t.inverseMass)),
    c.penetration * (t.inverseMass / (s.inverseMass + t.inverseMass)), ?_, ?_, ?_, ?_⟩
  · simp [corrections, hsecond, hs, htotal, hmassA, hmovesA, hpos.not_ge, hne.symm]
  · simp [corrections, hsecond, hs, htotal, hmassB, hmovesB, hpos.not_ge, hne]
  · have hbalance : ∀ p : ℝ,
        -p * (s.inverseMass / (s.inverseMass + t.inverseMass)) * s.effectiveMass +
          p * (t.inverseMass / (s.inverseMass + t.inverseMass)) * t.effectiveMass = 0 := by
      intro p
      rw [mul_assoc, mul_assoc, div_mul_eq_mul_div, div_mul_eq_mul_div, hone, hone']
      ring
    exact Vec3.ext (hbalance _) (hbalance _) (hbalance _)
  · exact shares_apart hpos c.penetration

end Collision

/-! ### Answering the collisions of a simulation -/

namespace Simulation

/-- **Resolution moves each shape once, by the mean of its corrections.**  If no correction waits,
none waits afterwards, every shape has moved by the mean of the corrections that the collisions of
the simulation have for it, in their order, and the order in which the shapes settle makes no
difference.  In exact arithmetic the order of the collisions makes no difference either; a
collision has corrections for exactly those of its shapes that can move, if the first one exists;
and two different shapes that can move keep their common centre of mass while they come apart by the
penetration. -/
theorem resolution_by_mean :
    (∀ {K : Type} [Scalar K] (s : Simulation K) (w : World K),
      (∀ t ∈ w.shapes.toList, t.Settled) →
      (∀ t ∈ (s.resolve w).shapes.toList, t.Settled) ∧
      (∀ x, (s.resolve w).shapes.find? x = (w.shapes.find? x).map fun t =>
        t.moveByMean (s.collisions.toList.flatMap fun c => c.corrections w.shapes x)) ∧
      ∀ order : List ShapeId,
        (∀ x, x ∈ order ↔ x ∈ s.collisions.toList.flatMap Collision.parties) →
        (s.collisions.toList.foldl (fun shapes c => c.correct shapes) w.shapes).modifyAll order
          Shape.settle = (s.resolve w).shapes) ∧
    (∀ (s s' : Simulation ℝ) (w : World ℝ), s'.collisions.toList.Perm s.collisions.toList →
      s'.resolve w = s.resolve w) ∧
    (∀ (c : Collision ℝ) (shapes : Shapes ℝ) (x : ShapeId), c.corrections shapes x ≠ [] ↔
      (shapes.find? c.first).isSome ∧ x ∈ c.parties ∧ 0 < shapes.inverseMass x) ∧
    ∀ (c : Collision ℝ) (shapes : Shapes ℝ) (b : ShapeId) (s t : Shape ℝ),
      c.second = some b → c.first ≠ b → shapes.find? c.first = some s → shapes.find? b = some t →
      0 < s.inverseMass → 0 < t.inverseMass →
      ∃ u v, c.corrections shapes c.first = [u] ∧ c.corrections shapes b = [v] ∧
        u * s.effectiveMass + v * t.effectiveMass = 0 ∧ v - u = c.penetration := by
  refine ⟨?_, ?_, ?_, ?_⟩
  · intro K _ s w hw
    refine ⟨?_, ?_, ?_⟩
    · exact (Collision.changedOn_resolveAll s.collisions.toList w.shapes).forall_mem_toList
        (fun _ _ hkept => hkept.settled) hw
    · intro x
      cases hfind : w.shapes.find? x with
      | none =>
        have hchanged := Collision.changedOn_resolveAll s.collisions.toList w.shapes
        exact hchanged.find?_eq_none hfind
      | some t => exact Collision.find?_resolveAll_eq hfind (hw t (Arena.mem_toList_of_find? hfind))
    · intro order horder
      exact Collision.modifyAll_settle_eq horder
  · intro s s' w hperm
    exact congrArg (fun shapes => { w with shapes := shapes })
      (Collision.resolveAll_perm hperm.symm)
  · intro c shapes x
    exact Collision.corrections_ne_nil_iff
  · intro c shapes b s t hsecond hne hs ht hmovesA hmovesB
    exact Collision.corrections_balance hsecond hne hs ht hmovesA hmovesB

/-! ### Two balls and a fixed one -/

noncomputable def bead (mass : ℝ) : Shape ℝ := .ofForm (.sphere 1) mass

/-- Two balls that can move and one that cannot, all in one place. -/
noncomputable def cluster : World ℝ where
  shapes := ⟨#[bead 1, bead 1, bead 0]⟩
  entities := .empty
  ragdolls := .empty

/-- Collisions of the first two balls, one told by each of them, of the first ball with an obstacle
outside the world, of a shape that does not exist, and of the ball that cannot move. -/
noncomputable def shoves : List (Collision ℝ) :=
  [⟨⟨0, ⟨0, -1, 0⟩⟩, ⟨0⟩, some ⟨1⟩⟩, ⟨⟨0, ⟨0, 1, 0⟩⟩, ⟨1⟩, some ⟨0⟩⟩,
    ⟨⟨0, ⟨0, -0.5, 0⟩⟩, ⟨0⟩, none⟩, ⟨⟨0, ⟨0, 1, 0⟩⟩, ⟨9⟩, some ⟨0⟩⟩,
    ⟨⟨0, ⟨0, 1, 0⟩⟩, ⟨2⟩, some ⟨9⟩⟩]

noncomputable def having (cs : List (Collision ℝ)) : Simulation ℝ :=
  { fresh ⟨1⟩ .standard (.still 0) with collisions := ⟨cs.toArray, 256, 0⟩ }

theorem inverseMass_cluster (x : ShapeId) :
    cluster.shapes.inverseMass x = if x.index < 2 then 1 else 0 := by
  have hmoves : (bead 1).inverseMass = 1 := by
    norm_num [Shape.inverseMass, Shape.effectiveMass, bead, Shape.ofForm, Scalar.isFinite]
  have hfixed : (bead 0).inverseMass = 0 := by
    norm_num [Shape.inverseMass, Shape.effectiveMass, bead, Shape.ofForm]
  show ((#[bead 1, bead 1, bead 0][x.index]?).map Shape.inverseMass).getD 0 = _
  match x.index with
  | 0 => exact hmoves
  | 1 => exact hmoves
  | 2 => exact hfixed
  | _ + 3 => rfl

theorem isNone_find?_cluster (x : ShapeId) :
    (cluster.shapes.find? x).isNone = decide (3 ≤ x.index) := by
  rw [Bool.eq_iff_iff, Option.isNone_iff_eq_none, Arena.find?_eq_none_iff, decide_eq_true_iff]
  rfl

/-- The corrections that the shoves have for each ball. -/
theorem corrections_shoves :
    (shoves.flatMap fun c => c.corrections cluster.shapes ⟨0⟩) =
      [⟨0, 0.5, 0⟩, ⟨0, 0.5, 0⟩, ⟨0, 0.5, 0⟩] ∧
    (shoves.flatMap fun c => c.corrections cluster.shapes ⟨1⟩) = [⟨0, -0.5, 0⟩, ⟨0, -0.5, 0⟩] ∧
    (shoves.flatMap fun c => c.corrections cluster.shapes ⟨2⟩) = [] := by
  have hone : ¬ (1 : ℝ) ≤ 0 := one_pos.not_ge
  have htwo : ¬ (2 : ℝ) ≤ 0 := two_pos.not_ge
  have hhalf : (2 : ℝ)⁻¹ = 0.5 := by norm_num
  simp [shoves, Collision.corrections, Collision.mobility, Collision.secondInverseMass,
    inverseMass_cluster, isNone_find?_cluster, Handle.index, Vec3.mul_def, Vec3.neg_def, hone, htwo,
    hhalf, one_add_one_eq_two]

/-- The shoves part the first two balls, in whichever order they are answered, and leave the third
one where it is. -/
theorem resolution_by_mean_of_shoves :
    (∀ t ∈ cluster.shapes.toList, t.Settled) ∧
    (∀ t ∈ ((having shoves).resolve cluster).shapes.toList, t.Settled) ∧
    ((having shoves).resolve cluster).shapes.find? ⟨0⟩ = some ((bead 1).moveBy ⟨0, 0.5, 0⟩) ∧
    ((having shoves).resolve cluster).shapes.find? ⟨1⟩ = some ((bead 1).moveBy ⟨0, -0.5, 0⟩) ∧
    ((having shoves).resolve cluster).shapes.find? ⟨2⟩ = some (bead 0) ∧
    (having shoves.reverse).resolve cluster = (having shoves).resolve cluster := by
  obtain ⟨hmean, hperm, -, -⟩ := resolution_by_mean
  have hsettled : ∀ t ∈ cluster.shapes.toList, t.Settled := by
    intro t ht
    have hbead : t = bead 1 ∨ t = bead 1 ∨ t = bead 0 := by
      simpa [cluster, Arena.toList] using ht
    rcases hbead with rfl | rfl | rfl <;> exact ⟨rfl, rfl⟩
  obtain ⟨hafter, hmoved, -⟩ := hmean (having shoves) cluster hsettled
  have hmoved' : ∀ x t, cluster.shapes.find? x = some t →
      ((having shoves).resolve cluster).shapes.find? x =
        some (t.moveByMean (shoves.flatMap fun c => c.corrections cluster.shapes x)) := by
    intro x t ht
    rw [hmoved, ht]
    rfl
  obtain ⟨hfirst, hsecond, hthird⟩ := corrections_shoves
  refine ⟨hsettled, hafter, ?_, ?_, ?_, ?_⟩
  · rw [hmoved' ⟨0⟩ (bead 1) rfl, hfirst]
    simp only [Shape.moveByMean, List.foldl_cons, Vec3.zero_def, Vec3.add_def, Vec3.div_def]
    norm_num
  · rw [hmoved' ⟨1⟩ (bead 1) rfl, hsecond]
    simp only [Shape.moveByMean, List.foldl_cons, Vec3.zero_def, Vec3.add_def, Vec3.div_def]
    norm_num
  · rw [hmoved' ⟨2⟩ (bead 0) rfl, hthird]
    rfl
  · exact hperm (having shoves) (having shoves.reverse) cluster shoves.reverse_perm

end Simulation

end RagdollDynamics
