import RagdollDynamics.Proofs.Contact.Enforcement

/-!
# Friction

In exact arithmetic friction obeys Coulomb's law: of the slip between the anchors of a contact it
undoes what is at most friction times pressure in length.  The rest is let through, and the upper
anchor follows it, so that no slip is left (`Contact.rub_consumes_slip`).
-/

namespace RagdollDynamics

namespace Contact

variable {c : Contact ℝ} {shapes : Shapes ℝ} {v : Vec3 ℝ} {bound : ℝ}

/-! ### Grip -/

/-- What is gripped points along the slip, and is as long as the slip and the bound allow. -/
theorem exists_grip_eq (slip : Vec3 ℝ) (hbound : 0 ≤ bound) :
    ∃ k : ℝ, 0 ≤ k ∧ k ≤ 1 ∧ grip slip bound = slip * k ∧
      (grip slip bound).length = min slip.length bound := by
  unfold grip
  by_cases hshort : slip.length ≤ bound
  · rw [if_pos hshort, min_eq_left hshort]
    refine ⟨1, zero_le_one, le_refl 1, ?_, rfl⟩
    simp only [Vec3.mul_def, mul_one]
  · have hpos : 0 < slip.length := hbound.trans_lt (not_le.1 hshort)
    have hk : 0 ≤ bound / slip.length := div_nonneg hbound hpos.le
    rw [if_neg hshort, min_eq_right (not_le.1 hshort).le]
    refine ⟨bound / slip.length, hk, (div_le_one hpos).2 (not_le.1 hshort).le, rfl, ?_⟩
    rw [Vec3.length_mul, abs_of_nonneg hk, mul_div_cancel₀ _ hpos.ne']

/-! ### Re-anchoring -/

theorem separation?_upperAnchor (hv : c.separation? shapes = some v) (u : Vec3 ℝ) :
    ({ c with upperAnchor := c.upperAnchor + u } : Contact ℝ).separation? shapes =
      some (v - u) := by
  obtain ⟨p, hp, hv⟩ := Option.bind_eq_some_iff.1 hv
  obtain ⟨q, hq, rfl⟩ := Option.map_eq_some_iff.1 hv
  rw [separation?, hp, hq]
  simp only [Option.bind_some, Option.map_some]
  refine congrArg some ?_
  abel

theorem sub_slip (c : Contact ℝ) (v : Vec3 ℝ) : v - c.slip v = c.normal * v.dot c.normal :=
  sub_sub_cancel v _

theorem normal_mul_dot (hunit : c.normal.lengthSq = 1) (k : ℝ) :
    (c.normal * k).dot c.normal = k := by
  rw [Vec3.mul_dot, ← Vec3.lengthSq, hunit, one_mul]

theorem slip_normal_mul (hunit : c.normal.lengthSq = 1) (k : ℝ) : c.slip (c.normal * k) = 0 := by
  rw [slip, normal_mul_dot hunit, sub_self]

/-! ### Friction -/

/-- **Friction undoes as much of the slip as Coulomb's law allows and consumes the rest**, whatever
has happened to the contact and to the shapes.  Without anything to rub nothing changes.  Otherwise
the shapes move against the slip, each by its share, and together by as much of it as friction
times pressure bounds; along the normal the anchors stay as far apart as they were, no slip is left
between them, and there is nothing left to rub. -/
theorem rub_consumes_slip (h : c.Arises shapes) :
    ∃ v, c.separation? shapes = some v ∧
      (c.Still v → c.rub shapes = (c, shapes)) ∧
      (¬c.Still v → ∃ (held : Vec3 ℝ) (k : ℝ) (c' : Contact ℝ) (rubbed : Shapes ℝ),
        c.rub shapes = (c', rubbed) ∧
        c' = { c with upperAnchor := c.upperAnchor + (c.slip v - held) } ∧
        held = c.slip v * k ∧ 0 ≤ k ∧ k ≤ 1 ∧ held.dot c.normal = 0 ∧
        held.length = min (c.slip v).length (c.friction * c.pressure) ∧
        c.lowerShare + c.upperShare = 1 ∧
        (∀ x, rubbed.find? x = (shapes.find? x).map fun s => s.moveBy (held * c.part x)) ∧
        (∃ v', c'.separation? rubbed = some v' ∧ v'.dot c.normal = v.dot c.normal ∧
          c.slip v' = 0) ∧
        c'.rub rubbed = (c', rubbed)) := by
  have hsound := h.sound
  have hunit := hsound.unit
  obtain ⟨v, hv⟩ := hsound.exists_separation?
  refine ⟨v, hv, rub_of_still hv, fun hslipping => ?_⟩
  have htotal := hsound.sharing.total_eq_one (not_or.1 hslipping).1
  obtain ⟨k, hk₀, hk₁, hheld, hlength⟩ :=
    exists_grip_eq (c.slip v) (mul_nonneg hsound.friction hsound.pressure)
  have hacross : (c.held v).dot c.normal = 0 := by
    rw [held, hheld, Vec3.mul_dot, slip_dot_normal hunit, zero_mul]
  have hspread := separation?_spread hsound.lower_ne_upper htotal hv (c.held v)
  have hleft := separation?_upperAnchor hspread (c.slip v - c.held v)
  rw [sub_sub, add_sub_cancel, sub_slip] at hleft
  have hslip := slip_normal_mul hunit (v.dot c.normal)
  refine ⟨c.held v, k, _, _, rub_of_not_still hv hslipping, rfl, hheld, hk₀, hk₁, hacross, hlength,
    htotal, find?_spread hsound.lower_ne_upper _,
    ⟨_, hleft, normal_mul_dot hunit _, hslip⟩, ?_⟩
  refine rub_of_still hleft (.inr (.inr (.inr ?_)))
  change (c.slip (c.normal * v.dot c.normal)).length < Scalar.tolerance
  rw [hslip, Vec3.length_zero]
  exact Scalar.tolerance_pos

/-- The pressure of the neighbours undoes an eighth of what the second one slid. -/
theorem rub_consumes_slip_of_bump :
    bump.Arises slid ∧ ¬bump.Still ⟨1 / 4, 1, 0⟩ ∧ ∃ held : Vec3 ℝ, held.length = 1 / 8 ∧
      ((bump.rub slid).2.find? ⟨0⟩ =
        (slid.find? ⟨0⟩).map fun s => s.moveBy (held * (-0.5 : ℝ))) ∧
      ∃ v', (bump.rub slid).1.separation? (bump.rub slid).2 = some v' ∧ bump.slip v' = 0 := by
  have hslip : bump.slip ⟨1 / 4, 1, 0⟩ = ⟨0, 1, 0⟩ := by
    norm_num [slip, bump, Vec3.dot, Vec3.mul_def, Vec3.sub_def]
  have hlength : (bump.slip ⟨1 / 4, 1, 0⟩).length = 1 := by
    rw [hslip]
    norm_num [Vec3.length, Vec3.lengthSq, Vec3.dot, Scalar.sqrt_real]
  have hslipping : ¬bump.Still ⟨1 / 4, 1, 0⟩ := by
    rw [Still, hlength]
    norm_num [isImmovable, bump, Vec3.dot, Scalar.tolerance]
  obtain ⟨v, hv, -, hrubbed⟩ := rub_consumes_slip arises_bump
  obtain rfl := Option.some.inj (separation?_bump.symm.trans hv)
  obtain ⟨held, k, c', rubbed, hrub, -, -, -, -, -, hbound, -, hmoved, ⟨v', hv', -, hgone⟩, -⟩ :=
    hrubbed hslipping
  have heighth : held.length = 1 / 8 := by
    rw [hbound, hlength]
    norm_num [bump]
  have hhalf : bump.part ⟨0⟩ = -0.5 := if_pos rfl
  have hfirst := hmoved ⟨0⟩
  rw [hhalf] at hfirst
  rw [hrub]
  exact ⟨arises_bump, hslipping, held, heighth, hfirst, v', hv', hgone⟩

end Contact

end RagdollDynamics
