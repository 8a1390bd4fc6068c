import Mathlib.Tactic.Abel
import RagdollDynamics.Proofs.Contact.Soundness

/-!
# Enforced contacts

In exact arithmetic enforcing a contact leaves exactly the allowance between its anchors: the two
shapes move apart along the normal, each by its share of what exceeds the allowance, and enforcing
the contact again does nothing (`Contact.enforce_restores_allowance`).
-/

namespace RagdollDynamics

namespace Contact

variable {c : Contact ℝ} {shapes : Shapes ℝ} {v w : Vec3 ℝ} {x : ShapeId}

/-! ### Moving the shapes apart -/

/-- The signed share of a shape in a correction: the lower shape moves against it, the upper one
along it, and no other shape moves. -/
noncomputable def part (c : Contact ℝ) (x : ShapeId) : ℝ :=
  if x = c.lower then -c.lowerShare else if x = c.upper then c.upperShare else 0

theorem find?_spread (hne : c.lower ≠ c.upper) (w : Vec3 ℝ) (x : ShapeId) :
    (c.spread w shapes).find? x = (shapes.find? x).map fun s => s.moveBy (w * c.part x) := by
  have hback : w * -c.lowerShare = -(w * c.lowerShare) := by
    simp only [Vec3.mul_def, Vec3.neg_def, mul_neg]
  have hstay : ∀ s : Shape ℝ, s.moveBy (w * (0 : ℝ)) = s := by
    intro s
    simp [Shape.moveBy, Vec3.mul_def, Vec3.add_def]
  unfold spread part
  by_cases hlower : x = c.lower
  · rw [if_pos hlower, hlower, Arena.find?_modify_of_ne _ hne.symm, Arena.find?_modify_self, hback]
  · rw [if_neg hlower]
    by_cases hupper : x = c.upper
    · rw [if_pos hupper, hupper, Arena.find?_modify_self, Arena.find?_modify_of_ne _ hne]
    · rw [if_neg hupper, Arena.find?_modify_of_ne _ (Ne.symm hupper),
        Arena.find?_modify_of_ne _ (Ne.symm hlower)]
      simp only [hstay, Option.map_id']

theorem position?_spread (hne : c.lower ≠ c.upper) (w : Vec3 ℝ) (x : ShapeId) :
    (c.spread w shapes).position? x = (shapes.position? x).map (· + w * c.part x) := by
  rw [Shapes.position?, find?_spread hne, Shapes.position?, Option.map_map, Option.map_map]
  rfl

theorem separation?_spread (hne : c.lower ≠ c.upper)
    (htotal : c.lowerShare + c.upperShare = 1) (hv : c.separation? shapes = some v) (w : Vec3 ℝ) :
    c.separation? (c.spread w shapes) = some (v - w) := by
  obtain ⟨p, hp, hv⟩ := Option.bind_eq_some_iff.1 hv
  obtain ⟨q, hq, rfl⟩ := Option.map_eq_some_iff.1 hv
  have hlower : c.part c.lower = -c.lowerShare := if_pos rfl
  have hupper : c.part c.upper = c.upperShare := by rw [part, if_neg hne.symm, if_pos rfl]
  have hshares : w * -c.lowerShare = w * c.upperShare - w := by
    have hrest : -c.lowerShare = c.upperShare - 1 := by linarith
    simp only [hrest, Vec3.mul_def, Vec3.sub_def, mul_sub, mul_one]
  rw [separation?, position?_spread hne, position?_spread hne, hp, hq, hlower, hupper, hshares]
  simp only [Option.map_some, Option.bind_some]
  refine congrArg some ?_
  abel

/-! ### Along the normal -/

theorem dot_sub_normal_mul (hunit : c.normal.lengthSq = 1) (v : Vec3 ℝ) (k : ℝ) :
    (v - c.normal * k).dot c.normal = v.dot c.normal - k := by
  rw [Vec3.sub_dot, Vec3.mul_dot, ← Vec3.lengthSq, hunit, one_mul]

theorem slip_dot_normal (hunit : c.normal.lengthSq = 1) (v : Vec3 ℝ) :
    (c.slip v).dot c.normal = 0 := by
  rw [slip, dot_sub_normal_mul hunit, sub_self]

/-- What is moved along the normal does not slip. -/
theorem slip_sub_normal_mul (hunit : c.normal.lengthSq = 1) (v : Vec3 ℝ) (k : ℝ) :
    c.slip (v - c.normal * k) = c.slip v := by
  rw [slip, slip, dot_sub_normal_mul hunit]
  refine Vec3.ext ?_ ?_ ?_ <;>
    · simp only [Vec3.sub_def, Vec3.mul_def]
      ring

/-! ### Enforcement -/

/-- **Enforcing a contact leaves exactly the allowance**, whatever has happened to the contact and
to the shapes.  Its normal is a unit vector and its shares make up a whole correction or none.  If
there is nothing to enforce, nothing changes; otherwise the shapes move along the normal, each by
its share, the contact gains the excess in pressure, and there is nothing left to enforce. -/
theorem enforce_restores_allowance (h : c.Arises shapes) :
    c.normal.length = 1 ∧ c.Sharing ∧ ∃ v, c.separation? shapes = some v ∧
      (c.Settled v → c.enforce shapes = (0, c, shapes)) ∧
      (¬c.Settled v →
        let excess := v.dot c.normal - c.allowance
        let pressed : Contact ℝ := { c with pressure := c.pressure + excess }
        ∃ parted, c.enforce shapes = (v.dot c.normal, pressed, parted) ∧ 0 < v.dot c.normal ∧
          c.lowerShare + c.upperShare = 1 ∧
          (∀ x, parted.find? x =
            (shapes.find? x).map fun s => s.moveBy (c.normal * excess * c.part x)) ∧
          (∃ v', pressed.separation? parted = some v' ∧ v'.dot c.normal = c.allowance ∧
            c.slip v' = c.slip v) ∧
          pressed.enforce parted = (0, pressed, parted)) := by
  have hsound := h.sound
  have hunit := hsound.unit
  obtain ⟨v, hv⟩ := hsound.exists_separation?
  refine ⟨Vec3.length_eq_one_iff.2 hunit, hsound.sharing, v, hv, enforce_of_settled hv, ?_⟩
  intro hloose excess pressed
  obtain ⟨hmovable, hdeep⟩ := not_or.1 hloose
  have htotal := hsound.sharing.total_eq_one hmovable
  have hexcess : 0 < excess := Scalar.tolerance_pos.trans (not_le.1 hdeep)
  have hparted : pressed.separation? (c.spread (c.normal * excess) shapes) =
      some (v - c.normal * excess) := separation?_spread hsound.lower_ne_upper htotal hv _
  have hoverlap : (v - c.normal * excess).dot c.normal = c.allowance := by
    rw [dot_sub_normal_mul hunit]
    exact sub_sub_cancel _ _
  have hsettled : pressed.Settled (v - c.normal * excess) := by
    refine .inr ?_
    change (v - c.normal * excess).dot c.normal - c.allowance ≤ Scalar.tolerance
    rw [hoverlap, sub_self]
    exact Scalar.tolerance_pos.le
  exact ⟨c.spread (c.normal * excess) shapes, enforce_of_not_settled hv hloose,
    by linarith [hsound.allowance], htotal, find?_spread hsound.lower_ne_upper _,
    ⟨_, hparted, hoverlap, slip_sub_normal_mul hunit v excess⟩,
    enforce_of_settled hparted hsettled⟩

/-- The neighbours that pressed against each other and slid are parted. -/
theorem enforce_restores_allowance_of_bump :
    bump.Arises slid ∧ ¬bump.Settled ⟨1 / 4, 1, 0⟩ ∧ (bump.enforce slid).1 = 1 / 4 ∧
      ∃ v', (bump.enforce slid).2.1.separation? (bump.enforce slid).2.2 = some v' ∧
        v'.dot bump.normal = 0.01 := by
  have hoverlap : Vec3.dot (⟨1 / 4, 1, 0⟩ : Vec3 ℝ) bump.normal = 1 / 4 := by
    norm_num [bump, Vec3.dot]
  have hloose : ¬bump.Settled ⟨1 / 4, 1, 0⟩ := by
    rw [Settled, hoverlap]
    norm_num [isImmovable, bump, Scalar.tolerance]
  obtain ⟨-, -, v, hv, -, hparted⟩ := enforce_restores_allowance arises_bump
  obtain rfl := Option.some.inj (separation?_bump.symm.trans hv)
  obtain ⟨parted, hparted, -, -, -, ⟨v', hv', hleft, -⟩, -⟩ := hparted hloose
  rw [hparted]
  exact ⟨arises_bump, hloose, hoverlap, v', hv', hleft⟩

end Contact

end RagdollDynamics
